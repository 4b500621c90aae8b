import Grctl.Text.Template

/-!
# The order of substitutions

`substitute` replaces the placeholders of one parameter after the other, and so also those in values
that have been put in before. This file says what the order of the parameters does. A placeholder
becomes its value with the later parameters substituted into it (`substitute_append_cons_self`). The
value is left as it is when each of them either has no placeholder in the value or is a placeholder
for itself (`substitute_eq_self`); and a parameter that is neither does change the value
(`replaceAll_eq_self_iff`).

`Undisturbed` collects this for all pairs of parameters. Under it a template is filled with the
values in every order (`substitute_template_of_undisturbed`).

## Main definitions

* `Undisturbed`.

## Main results

* `replaceAll_eq_self_iff`, `substitute_append_cons_self`, `substitute_lead`.
* `substitute_template_of_undisturbed`, `substitute_piece_eq_of_template_eq`.
* `substitute_template`: with values that have no opening delimiter, the template is filled with
  the values.
-/

namespace Grctl.Text

variable {α : Type*} [DecidableEq α]

/-! ### What a replacement changes -/

section Replace

variable {old new s t : List α}

/-- The elements of a replaced occurrence are skipped. -/
theorem replaceFrom_append : replaceFrom old new s.length (s ++ t) = replaceAll old new t := by
  induction s with
  | nil => rfl
  | cons a s ih => exact ih

/-- A text is replaced up to its first occurrence, and after it. -/
theorem exists_replaceAll_eq (new : List α) (hold : old ≠ []) (h : old <:+: s) :
    ∃ before rest, s = before ++ (old ++ rest) ∧
      replaceAll old new s = before ++ (new ++ replaceAll old new rest) := by
  induction s with
  | nil => exact absurd (List.infix_nil.1 h) hold
  | cons a s ih =>
    by_cases hpre : old <+: a :: s
    · obtain ⟨rest, hrest⟩ := hpre
      obtain ⟨b, old', rfl⟩ := List.exists_cons_of_ne_nil hold
      rw [List.cons_append] at hrest
      obtain ⟨rfl, rfl⟩ := List.cons.inj hrest
      refine ⟨[], rest, rfl, ?_⟩
      simp [replaceAll, replaceFrom, replaceFrom_append]
    · have hs : old <:+: s := (List.infix_cons_iff.1 h).resolve_left hpre
      obtain ⟨before, rest, hsplit, hreplace⟩ := ih hs
      refine ⟨a :: before, rest, by rw [hsplit, List.cons_append], ?_⟩
      rw [List.cons_append, ← hreplace]
      simp [replaceAll, replaceFrom, hpre]

theorem length_le_length_replaceFrom (hold : old ≠ []) (h : old.length ≤ new.length) (k : ℕ) :
    s.length ≤ (replaceFrom old new k s).length + k := by
  have hpos := List.length_pos_iff.2 hold
  induction s generalizing k with
  | nil => simp
  | cons a s ih =>
    cases k with
    | succ k =>
      have := ih k
      simp only [replaceFrom, List.length_cons]
      omega
    | zero =>
      rw [replaceFrom]
      split
      · have := ih (old.length - 1)
        simp only [List.length_append, List.length_cons]
        omega
      · have := ih 0
        simp only [List.length_cons]
        omega

theorem length_replaceFrom_le (hold : old ≠ []) (h : new.length ≤ old.length) {k : ℕ}
    (hk : k ≤ s.length) : (replaceFrom old new k s).length + k ≤ s.length := by
  have hpos := List.length_pos_iff.2 hold
  induction s generalizing k with
  | nil => simpa [replaceFrom] using hk
  | cons a s ih =>
    cases k with
    | succ k =>
      have := ih (k := k) (by simpa using hk)
      simp only [replaceFrom, List.length_cons]
      omega
    | zero =>
      rw [replaceFrom]
      split
      · next hpre =>
        have hpre := List.isPrefixOf_iff_prefix.1 hpre
        have hle : old.length ≤ s.length + 1 := hpre.length_le
        have := ih (k := old.length - 1) (by omega)
        simp only [List.length_append, List.length_cons]
        omega
      · have := ih (k := 0) (Nat.zero_le _)
        simp only [List.length_cons]
        omega

/-- A text replaced by itself changes nothing. -/
theorem replaceFrom_same (hold : old ≠ []) (k : ℕ) : replaceFrom old old k s = s.drop k := by
  obtain ⟨b, old, rfl⟩ := List.exists_cons_of_ne_nil hold
  induction s generalizing k with
  | nil => simp [replaceFrom]
  | cons a s ih =>
    cases k with
    | succ k => exact ih k
    | zero =>
      rw [replaceFrom]
      split
      · next hpre =>
        obtain ⟨rest, hrest⟩ := List.isPrefixOf_iff_prefix.1 hpre
        rw [List.cons_append] at hrest
        obtain ⟨rfl, rfl⟩ := List.cons.inj hrest
        simp [ih]
      · rw [ih]
        rfl

/-- A replacement leaves a text as it is exactly when there is nothing to replace or the new text
is the old one. -/
theorem replaceAll_eq_self_iff (hold : old ≠ []) :
    replaceAll old new s = s ↔ (old <:+: s → new = old) := by
  constructor
  · intro h hwithin
    obtain ⟨before, rest, hsplit, hreplace⟩ := exists_replaceAll_eq new hold hwithin
    rw [hreplace, hsplit, List.append_cancel_left_eq] at h
    -- the rest is not shorter if the new text is not, and not longer if the new text is not
    have hlength := congrArg List.length h
    simp only [List.length_append] at hlength
    have hge : old.length ≤ new.length → rest.length ≤ (replaceAll old new rest).length :=
      fun h => length_le_length_replaceFrom hold h 0
    have hle : new.length ≤ old.length → (replaceAll old new rest).length ≤ rest.length :=
      fun h => length_replaceFrom_le hold h (Nat.zero_le _)
    exact (List.append_inj h (by omega)).1
  · intro h
    by_cases hwithin : old <:+: s
    · rw [h hwithin, replaceAll, replaceFrom_same hold, List.drop_zero]
    · exact replaceAll_eq_self hwithin

end Replace

/-! ### Orders of the parameters -/

section Order

variable {opening closing sep : α} {params rest later : List (List α × List α)}
  {name value s lead : List α} {pieces : List (Piece α)}

theorem substitute_append :
    substitute opening closing (rest ++ later) s =
      substitute opening closing later (substitute opening closing rest s) :=
  List.foldl_append

/-- A text in which each parameter has no placeholder, or stands for its own placeholder. -/
theorem substitute_eq_self
    (h : ∀ param ∈ params, placeholder opening closing param.1 <:+: s →
      param.2 = placeholder opening closing param.1) :
    substitute opening closing params s = s := by
  induction params with
  | nil => rfl
  | cons param params ih =>
    rw [substitute_cons,
      (replaceAll_eq_self_iff placeholder_ne_nil).2 (h param List.mem_cons_self)]
    exact ih fun param' hparam' => h param' (List.mem_cons_of_mem _ hparam')

/-- A placeholder becomes its value, with the later parameters substituted into it. -/
theorem substitute_append_cons_self (hoc : opening ≠ closing) (hopen : opening ∉ name)
    (hclose : closing ∉ name) (hrest : ∀ param ∈ rest, param.1 ≠ name) :
    substitute opening closing (rest ++ (name, value) :: later) (placeholder opening closing name) =
      substitute opening closing later value := by
  have hkept : substitute opening closing rest (placeholder opening closing name) =
      placeholder opening closing name :=
    substitute_eq_self fun param hparam hwithin =>
      absurd hwithin (placeholder_not_within (hrest param hparam) hopen hclose hoc)
  rw [substitute_append, hkept, substitute_cons, replaceAll_self placeholder_ne_nil]

/-- What stands in front of the first opening delimiter is kept. -/
theorem substitute_lead (h : opening ∉ lead) :
    substitute opening closing params (lead ++ s) =
      lead ++ substitute opening closing params s := by
  have hreplace (old new s : List α) :
      replaceAll (opening :: old) new (lead ++ s) = lead ++ replaceAll (opening :: old) new s := by
    induction lead with
    | nil => rfl
    | cons a lead ih =>
      obtain ⟨hne, hlead⟩ := List.ne_and_not_mem_of_not_mem_cons h
      simp only [replaceAll] at ih
      simp [replaceAll, replaceFrom, hne, ih hlead]
  induction params generalizing s with
  | nil => rfl
  | cons param params ih => rw [substitute_cons, placeholder, hreplace, ih, substitute_cons]; rfl

/-- No parameter changes the value of another one. -/
def Undisturbed (opening closing : α) (params : List (List α × List α)) : Prop :=
  ∀ a ∈ params, ∀ b ∈ params, a.1 ≠ b.1 →
    placeholder opening closing b.1 <:+: a.2 → b.2 = placeholder opening closing b.1

/-- Values that do not disturb each other fill a template in every order. -/
theorem substitute_template_of_undisturbed {params' : List (List α × List α)}
    (h : Names opening closing sep (params.map Prod.fst)) (hperm : params'.Perm params)
    (hpieces : ∀ piece ∈ pieces, piece.Uses opening sep (params.map Prod.fst))
    (hparams : Undisturbed opening closing params) :
    substitute opening closing params' (template opening closing sep pieces) =
      [sep].intercalate (pieces.map (Piece.fill opening closing params)) := by
  rw [template, substitute_intercalate (h.perm hperm).separates, List.map_map]
  congr 1
  refine List.map_congr_left fun piece hpiece => ?_
  cases piece with
  | lit text => exact substitute_of_not_mem (hpieces _ hpiece).1
  | hole name =>
    have hname := hpieces _ hpiece
    obtain ⟨value, hlookup, hmem⟩ := exists_lookup_of_mem hname
    -- the parameters before and after the one that is put in have other names
    obtain ⟨rest, later, rfl⟩ := List.append_of_mem (hperm.mem_iff.2 hmem)
    have hkeys := (h.perm hperm).nodup
    rw [List.map_append, List.map_cons, List.nodup_append, List.nodup_cons] at hkeys
    have hrest : ∀ param ∈ rest, param.1 ≠ name := fun param hparam =>
      hkeys.2.2 _ (List.mem_map_of_mem hparam) _ List.mem_cons_self
    have hlater : ∀ param ∈ later, name ≠ param.1 := by
      rintro param hparam rfl
      exact hkeys.2.1.1 (List.mem_map.2 ⟨param, hparam, rfl⟩)
    rw [Function.comp_apply, Piece.text, substitute_append_cons_self h.opening_ne_closing
      (h.opening_not_mem name hname) (h.closing_not_mem name hname) hrest, Piece.fill, hlookup,
      Option.getD_some]
    refine substitute_eq_self fun param hparam => ?_
    exact hparams _ hmem param (hperm.mem_iff.1 (by simp [hparam])) (hlater param hparam)

omit [DecidableEq α] in
theorem undisturbed_of_not_mem (h : ∀ param ∈ params, opening ∉ param.2) :
    Undisturbed opening closing params := by
  intro a ha b _ _ hsub
  exact absurd (hsub.subset (by simp [placeholder])) (h a ha)

/-- When no value has an opening delimiter, a template is filled with the values, in whatever
order they are substituted. -/
theorem substitute_template {params' : List (List α × List α)}
    (h : Names opening closing sep (params.map Prod.fst)) (hperm : params'.Perm params)
    (hvalues : ∀ param ∈ params, opening ∉ param.2)
    (hpieces : ∀ piece ∈ pieces, piece.Uses opening sep (params.map Prod.fst)) :
    substitute opening closing params' (template opening closing sep pieces) =
      [sep].intercalate (pieces.map (Piece.fill opening closing params)) :=
  substitute_template_of_undisturbed h hperm hpieces (undisturbed_of_not_mem hvalues)

/-- Two orders that give the same text give the same pieces, when no value has a separator. -/
theorem substitute_piece_eq_of_template_eq {params' params'' : List (List α × List α)}
    {piece : Piece α} (h : Names opening closing sep (params.map Prod.fst))
    (hperm' : params'.Perm params) (hperm'' : params''.Perm params)
    (hvalues : ∀ param ∈ params, sep ∉ param.2)
    (hpieces : ∀ piece ∈ pieces, piece.Uses opening sep (params.map Prod.fst))
    (heq : substitute opening closing params' (template opening closing sep pieces) =
      substitute opening closing params'' (template opening closing sep pieces))
    (hpiece : piece ∈ pieces) :
    substitute opening closing params' (piece.text opening closing) =
      substitute opening closing params'' (piece.text opening closing) := by
  have hne : pieces ≠ [] := List.ne_nil_of_mem hpiece
  have tokens {order : List (List α × List α)} (horder : order.Perm params) :
      (substitute opening closing order (template opening closing sep pieces)).splitOn sep =
        pieces.map fun piece => substitute opening closing order (piece.text opening closing) := by
    rw [template, substitute_intercalate (h.perm horder).separates, List.map_map,
      List.splitOn_intercalate]
    · rfl
    · intro token htoken
      obtain ⟨piece, hpiece, rfl⟩ := List.mem_map.1 htoken
      exact not_mem_substitute_piece h horder hvalues (hpieces piece hpiece)
    · simpa using hne
  have hmap := congrArg (List.splitOn sep) heq
  rw [tokens hperm', tokens hperm''] at hmap
  exact List.map_inj_left.1 hmap piece hpiece

end Order

end Grctl.Text
