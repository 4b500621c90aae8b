import Grctl.Text.Template

/-!
# Texts of proper tokens

A text is read as the list of its tokens, the pieces between its separators. It is well formed when
no token is empty and none has a blank. Joining well-formed texts gives a well-formed text, with or
without a separator between them, and so does the substitution of well-formed values into a
well-formed template. Conversely a substitution cannot repair a text that is not well formed: it
leaves blanks and separators where they are.

## Main definitions

* `ProperToken`, `WellFormed`.
* `separated_induction`: induction over the tokens of a text.

## Main results

* `wellFormed_append_cons`, `WellFormed.append`, `wellFormed_intercalate`.
* `WellFormed.replaceAll`, `wellFormed_of_replaceAll`.
* `WellFormed.substitute`, `wellFormed_of_substitute`.
* `wellFormed_substitute_piece`, `wellFormed_of_substitute_hole`: with arbitrary values, in whatever
  order they come, what the pieces of a template become is well formed when the values are, and
  what a placeholder becomes only if its value is.
-/

namespace Grctl.Text

variable {α : Type*}

/-- A token that is not empty and has no blanks. -/
def ProperToken (blank : α → Bool) (token : List α) : Prop :=
  token ≠ [] ∧ ∀ a ∈ token, blank a = false

variable [DecidableEq α]

instance (blank : α → Bool) (token : List α) : Decidable (ProperToken blank token) :=
  inferInstanceAs (Decidable (_ ∧ _))

/-- A text all of whose tokens are proper. -/
def WellFormed (blank : α → Bool) (sep : α) (s : List α) : Prop :=
  ∀ token ∈ s.splitOn sep, ProperToken blank token

instance (blank : α → Bool) (sep : α) (s : List α) : Decidable (WellFormed blank sep s) :=
  inferInstanceAs (Decidable (∀ token ∈ _, ProperToken blank token))

variable {blank : α → Bool} {sep : α} {s t : List α}

/-- To prove something about every text, prove it about texts without separators and, where it
holds of a first token and of the rest, about the two joined by a separator. -/
theorem separated_induction (sep : α) {motive : List α → Prop}
    (single : ∀ s, sep ∉ s → motive s)
    (join : ∀ s t, sep ∉ s → motive s → motive t → motive (s ++ sep :: t)) (s : List α) :
    motive s := by
  induction hn : s.length using Nat.strong_induction_on generalizing s with
  | _ n ih =>
    by_cases hsep : sep ∈ s
    · obtain ⟨a, b, rfl, ha⟩ := List.eq_append_cons_of_mem hsep
      exact join a b ha (single a ha) (ih b.length (by simp at hn; omega) b rfl)
    · exact single s hsep

theorem wellFormed_iff_of_not_mem (hsep : sep ∉ s) :
    WellFormed blank sep s ↔ ProperToken blank s := by
  simp [WellFormed, List.splitOn_eq_singleton hsep]

/-- Two texts with a separator between them. -/
@[simp]
theorem wellFormed_append_cons :
    WellFormed blank sep (s ++ sep :: t) ↔ WellFormed blank sep s ∧ WellFormed blank sep t := by
  rw [WellFormed, List.splitOn, List.splitOnP_append_cons _ _ (by simp)]
  exact List.forall_mem_append

/-- A text joined from pieces is well formed when the pieces are. -/
theorem wellFormed_intercalate {pieces : List (List α)} (h : pieces ≠ []) :
    WellFormed blank sep ([sep].intercalate pieces) ↔
      ∀ piece ∈ pieces, WellFormed blank sep piece := by
  rw [WellFormed, splitOn_intercalate_eq_flatMap sep h]
  simp only [List.mem_flatMap, WellFormed]
  exact ⟨fun h piece hpiece token htoken => h token ⟨piece, hpiece, htoken⟩,
    fun h token ⟨piece, hpiece, htoken⟩ => h piece hpiece token htoken⟩

omit [DecidableEq α] in
theorem ProperToken.append (hs : ProperToken blank s) (ht : ∀ a ∈ t, blank a = false) :
    ProperToken blank (s ++ t) := by
  refine ⟨by simp [hs.1], fun a ha => ?_⟩
  rcases List.mem_append.1 ha with ha | ha
  exacts [hs.2 a ha, ht a ha]

/-- Two texts without a separator between them: the last token of the one and the first of the
other become one token. -/
theorem WellFormed.append (hs : WellFormed blank sep s) (ht : WellFormed blank sep t) :
    WellFormed blank sep (s ++ t) := by
  induction s using separated_induction sep with
  | join s s' hsep _ ih =>
    rw [wellFormed_append_cons] at hs
    rw [List.append_assoc, List.cons_append, wellFormed_append_cons]
    exact ⟨hs.1, ih hs.2⟩
  | single s hsep =>
    rw [wellFormed_iff_of_not_mem hsep] at hs
    induction t using separated_induction sep with
    | single t hsep' =>
      rw [wellFormed_iff_of_not_mem hsep'] at ht
      rw [wellFormed_iff_of_not_mem (by simp [hsep, hsep'])]
      exact hs.append ht.2
    | join t t' hsep' _ _ =>
      rw [wellFormed_append_cons, wellFormed_iff_of_not_mem hsep'] at ht
      rw [← List.append_assoc, wellFormed_append_cons,
        wellFormed_iff_of_not_mem (by simp [hsep, hsep'])]
      exact ⟨hs.append ht.1.2, ht.2⟩

/-- A well-formed text has no blanks but its separators. -/
theorem WellFormed.blank_eq_false (h : WellFormed blank sep s) {a : α} (ha : a ∈ s)
    (hne : a ≠ sep) : blank a = false := by
  induction s using separated_induction sep with
  | single s hsep => exact ((wellFormed_iff_of_not_mem hsep).1 h).2 a ha
  | join s t hsep ihs iht =>
    rw [wellFormed_append_cons] at h
    rcases List.mem_append.1 ha with ha | ha
    · exact ihs h.1 ha
    · exact iht h.2 ((List.mem_cons.1 ha).resolve_left hne)

theorem not_wellFormed_nil : ¬ WellFormed blank sep [] := by
  rw [wellFormed_iff_of_not_mem (by simp)]
  exact fun h => h.1 rfl

/-! ### Replacement -/

section Replace

variable {old new : List α}

/-- In a text without separators, a well-formed text in place of another: the rest of the text may
be consumed by an occurrence. -/
theorem replaceFrom_wellFormed (hnew : WellFormed blank sep new) (hsep : sep ∉ s)
    (hs : ∀ a ∈ s, blank a = false) {k : ℕ} :
    replaceFrom old new k s = [] ∨ WellFormed blank sep (replaceFrom old new k s) := by
  induction s generalizing k with
  | nil => exact .inl rfl
  | cons a s ih =>
    obtain ⟨hne, hsep⟩ := List.ne_and_not_mem_of_not_mem_cons hsep
    obtain ⟨ha, hs⟩ := List.forall_mem_cons.1 hs
    have htoken : WellFormed blank sep [a] := by
      rw [wellFormed_iff_of_not_mem (by simpa using hne)]
      exact ⟨by simp, by simpa using ha⟩
    cases k with
    | succ k => exact ih hsep hs
    | zero =>
      rw [replaceFrom]
      split
      · rcases ih hsep hs (k := old.length - 1) with h | h
        · exact .inr (by simpa [h] using hnew)
        · exact .inr (hnew.append h)
      · rcases ih hsep hs (k := 0) with h | h
        · exact .inr (by simpa [h] using htoken)
        · exact .inr (htoken.append h)

theorem replaceAll_ne_nil (hnew : new ≠ []) (hs : s ≠ []) : replaceAll old new s ≠ [] := by
  obtain ⟨a, s, rfl⟩ := List.exists_cons_of_ne_nil hs
  rw [replaceAll, replaceFrom]
  split <;> simp [hnew]

theorem WellFormed.ne_nil (h : WellFormed blank sep s) : s ≠ [] := by
  rintro rfl
  exact not_wellFormed_nil h

/-- Replacing by a well-formed text keeps a text well formed. -/
theorem WellFormed.replaceAll (hold : old ≠ []) (hsep : sep ∉ old)
    (hnew : WellFormed blank sep new) (hs : WellFormed blank sep s) :
    WellFormed blank sep (replaceAll old new s) := by
  induction s using separated_induction sep with
  | single s hsep' =>
    rw [wellFormed_iff_of_not_mem hsep'] at hs
    exact (replaceFrom_wellFormed hnew hsep' hs.2).resolve_left
      (replaceAll_ne_nil hnew.ne_nil hs.1)
  | join s t hsep' ihs iht =>
    rw [wellFormed_append_cons] at hs
    rw [replaceAll_append_cons hold hsep, wellFormed_append_cons]
    exact ⟨ihs hs.1, iht hs.2⟩

/-- A replacement does not repair a text. -/
theorem wellFormed_of_replaceAll (hold : old ≠ []) (hsep : sep ∉ old)
    (hblank : ∀ a ∈ old, blank a = false)
    (h : WellFormed blank sep (Text.replaceAll old new s)) : WellFormed blank sep s := by
  induction s using separated_induction sep with
  | single s hsep' =>
    rw [wellFormed_iff_of_not_mem hsep']
    constructor
    · rintro rfl
      exact not_wellFormed_nil h
    · intro a ha
      -- a blank of the text is not part of an occurrence, so it is still there
      by_contra hba
      have hmem : a ∈ Text.replaceAll old new s :=
        mem_replaceAll_of_mem hold (fun hin => hba (hblank a hin)) ha
      exact hba (h.blank_eq_false hmem (by rintro rfl; exact hsep' ha))
  | join s t hsep' ihs iht =>
    rw [replaceAll_append_cons hold hsep, wellFormed_append_cons] at h
    exact wellFormed_append_cons.2 ⟨ihs h.1, iht h.2⟩

end Replace

/-! ### Substitution -/

section Substitute

variable {opening closing : α} {params params' : List (List α × List α)} {name value : List α}

/-- No placeholder of the parameters has a blank. -/
def BlankFree (blank : α → Bool) (opening closing : α) (params : List (List α × List α)) : Prop :=
  ∀ param ∈ params, ∀ a ∈ placeholder opening closing param.1, blank a = false

/-- Substituting well-formed values keeps a text well formed. -/
theorem WellFormed.substitute (hsep : Separates opening closing sep params)
    (hvalues : ∀ param ∈ params, WellFormed blank sep param.2) (hs : WellFormed blank sep s) :
    WellFormed blank sep (substitute opening closing params s) := by
  induction params generalizing s with
  | nil => exact hs
  | cons param params ih =>
    obtain ⟨hvalue, hvalues⟩ := List.forall_mem_cons.1 hvalues
    exact ih (hsep.of_suffix (List.suffix_cons _ _)) hvalues
      (WellFormed.replaceAll placeholder_ne_nil (hsep param List.mem_cons_self) hvalue hs)

/-- A substitution does not repair a text. -/
theorem wellFormed_of_substitute (hsep : Separates opening closing sep params)
    (hblank : BlankFree blank opening closing params)
    (h : WellFormed blank sep (Text.substitute opening closing params s)) :
    WellFormed blank sep s := by
  induction params generalizing s with
  | nil => exact h
  | cons param params ih =>
    obtain ⟨hparam, hblank⟩ := List.forall_mem_cons.1 hblank
    exact wellFormed_of_replaceAll placeholder_ne_nil (hsep param List.mem_cons_self) hparam
      (ih (hsep.of_suffix (List.suffix_cons _ _)) hblank h)

/-- Whatever the values are and in whatever order they come, what a placeholder becomes is well
formed only if its value is. -/
theorem wellFormed_of_substitute_hole (h : Names opening closing sep (params.map Prod.fst))
    (hperm : params'.Perm params) (hblank : BlankFree blank opening closing params)
    (hmem : (name, value) ∈ params)
    (hwell : WellFormed blank sep
      (Text.substitute opening closing params' (Piece.text opening closing (.hole name)))) :
    WellFormed blank sep value := by
  have hname : name ∈ params.map Prod.fst := List.mem_map.2 ⟨_, hmem, rfl⟩
  have hnames := h.perm hperm
  obtain ⟨later, hlater, heq⟩ := substitute_placeholder h.opening_ne_closing
    (h.opening_not_mem name hname) (h.closing_not_mem name hname) hnames.nodup
    (hperm.mem_iff.2 hmem)
  refine wellFormed_of_substitute (hnames.separates.of_suffix hlater) (fun param hparam => ?_)
    (heq ▸ hwell)
  exact hblank param (hperm.mem_iff.1 (hlater.subset hparam))

/-- With well-formed values, what a piece becomes is well formed. -/
theorem wellFormed_substitute_piece (h : Names opening closing sep (params.map Prod.fst))
    (hperm : params'.Perm params) (hblank : BlankFree blank opening closing params)
    (hvalues : ∀ param ∈ params, WellFormed blank sep param.2) {piece : Piece α}
    (hpiece : piece.Uses opening sep (params.map Prod.fst))
    (hlit : ∀ text, piece = .lit text → ProperToken blank text) :
    WellFormed blank sep
      (Text.substitute opening closing params' (piece.text opening closing)) := by
  refine WellFormed.substitute (h.perm hperm).separates
    (fun param hparam => hvalues param (hperm.mem_iff.1 hparam)) ?_
  cases piece with
  | lit text => exact (wellFormed_iff_of_not_mem hpiece.2).2 (hlit text rfl)
  | hole name =>
    obtain ⟨value, -, hmem⟩ := exists_lookup_of_mem hpiece
    rw [Piece.text, wellFormed_iff_of_not_mem (h.separates _ hmem)]
    exact ⟨placeholder_ne_nil, hblank _ hmem⟩

end Substitute

end Grctl.Text
