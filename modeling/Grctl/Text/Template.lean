import Mathlib.Data.List.Basic
import Mathlib.Data.List.Infix

/-!
# Replacement in texts and templates with placeholders

A text is a list over an arbitrary type. `replaceAll old new` replaces the occurrences of `old`
from left to right, without overlaps. A template is a text with placeholders, a name between an
opening and a closing delimiter; `substitute` replaces the placeholders of a list of parameters
one after the other, so that a value which contains a placeholder itself is substituted into by
the parameters that come later.

When templates consist of pieces joined by a separator that no placeholder contains, substitution
works piece by piece (`substitute_intercalate`). A piece that is one placeholder becomes its value,
with the parameters that come later substituted into it (`substitute_placeholder`); it follows that
the order of the parameters is immaterial when no value has an opening delimiter
(`substitute_placeholder_eq`), and that in any order the separators of a value are kept
(`mem_substitute_placeholder`) and none are added but those of other values
(`not_mem_substitute`). `Piece` and `template` put such templates together from fixed texts and
names.

## Main definitions

* `replaceAll`, `placeholder`, `substitute`.
* `Piece`, `Piece.text`, `Piece.fill`, `Piece.Uses`, `template`, `Names`.

## Main results

* `replaceAll_append_cons`, `replaceAll_eq_self`, `replaceAll_self`, `mem_replaceAll_of_mem`,
  `not_mem_replaceAll`.
* `substitute_placeholder`, `substitute_intercalate`.
* `not_mem_substitute_piece`, `mem_substitute_hole`: with arbitrary values, which pieces have
  separators.
* `splitOn_intercalate_eq_flatMap`: the parts of a joined text;
  `not_mem_of_length_flatMap_splitOn` counts them.
-/

namespace Grctl.Text

variable {α : Type*} [DecidableEq α]

/-! ### Replacing one text by another -/

/-- The replacement of `old` by `new`, when the first elements of the text, as many as the number
says, belong to an occurrence that has been replaced. -/
def replaceFrom (old new : List α) : ℕ → List α → List α
  | _, [] => []
  | k + 1, _ :: s => replaceFrom old new k s
  | 0, a :: s =>
    if old.isPrefixOf (a :: s) then new ++ replaceFrom old new (old.length - 1) s
    else a :: replaceFrom old new 0 s

/-- All occurrences of the text `old`, which is not empty, are replaced by `new`. -/
def replaceAll (old new s : List α) : List α :=
  replaceFrom old new 0 s

section Replace

variable {old new s t : List α} {sep : α}

omit [DecidableEq α] in
/-- A text that contains no separator is a prefix of a joined text exactly when it is one of the
text before the separator. -/
theorem prefix_append_cons_iff (hsep : sep ∉ old) : old <+: s ++ sep :: t ↔ old <+: s := by
  constructor
  · intro h
    rcases List.prefix_or_prefix_of_prefix h (List.prefix_append s (sep :: t)) with h | h
    · exact h
    · obtain ⟨r, rfl⟩ := h
      obtain ⟨q, hq⟩ := h
      cases r with
      | nil => simp
      | cons a r =>
        simp only [List.append_assoc, List.append_cancel_left_eq, List.cons_append,
          List.cons.injEq] at hq
        simp [hq.1] at hsep
  · exact fun h => h.trans (List.prefix_append s _)

theorem replaceFrom_append_cons (hold : old ≠ []) (hsep : sep ∉ old) {k : ℕ}
    (hk : k ≤ s.length) :
    replaceFrom old new k (s ++ sep :: t) =
      replaceFrom old new k s ++ sep :: replaceAll old new t := by
  induction s generalizing k with
  | nil =>
    obtain rfl : k = 0 := Nat.le_zero.1 hk
    have hno : ¬ old <+: sep :: t := by
      simpa [hold] using (prefix_append_cons_iff (s := []) (t := t) hsep).not
    simp [replaceFrom, hno, replaceAll]
  | cons a s ih =>
    cases k with
    | succ k => exact ih (by simpa using hk)
    | zero =>
      simp only [List.cons_append, replaceFrom, List.isPrefixOf_iff_prefix]
      rw [← List.cons_append, if_congr (prefix_append_cons_iff hsep) rfl rfl]
      split
      · next hpre =>
        rw [ih (by have := hpre.length_le; simp at this; omega), List.append_assoc]
      · rw [ih (Nat.zero_le _), List.cons_append]

/-- Replacement works on both sides of a separator that the replaced text does not contain. -/
theorem replaceAll_append_cons (hold : old ≠ []) (hsep : sep ∉ old) :
    replaceAll old new (s ++ sep :: t) = replaceAll old new s ++ sep :: replaceAll old new t :=
  replaceFrom_append_cons hold hsep (Nat.zero_le _)

/-- A text without occurrences is left as it is. -/
theorem replaceAll_eq_self (h : ¬ old <:+: s) : replaceAll old new s = s := by
  induction s with
  | nil => rfl
  | cons a s ih =>
    have hno : ¬ old <+: a :: s := fun hpre => h hpre.isInfix
    have hs : ¬ old <:+: s := fun hs => h (hs.trans (List.suffix_cons a s).isInfix)
    simp only [replaceAll, replaceFrom, List.isPrefixOf_iff_prefix, hno, if_false]
    exact congrArg _ (ih hs)

theorem replaceFrom_length : replaceFrom old new s.length s = [] := by
  induction s with
  | nil => rfl
  | cons a s ih => exact ih

/-- The replaced text itself becomes the new text. -/
theorem replaceAll_self (hold : old ≠ []) : replaceAll old new old = new := by
  obtain ⟨a, old, rfl⟩ := List.exists_cons_of_ne_nil hold
  simp [replaceAll, replaceFrom, replaceFrom_length]

/-- An element that the replaced text does not contain stays. -/
theorem mem_replaceAll_of_mem (hold : old ≠ []) (hsep : sep ∉ old) (hs : sep ∈ s) :
    sep ∈ replaceAll old new s := by
  obtain ⟨s, t, rfl⟩ := List.append_of_mem hs
  simp [replaceAll_append_cons hold hsep]

theorem not_mem_replaceFrom (hnew : sep ∉ new) {k : ℕ} (hs : sep ∉ s) :
    sep ∉ replaceFrom old new k s := by
  induction s generalizing k with
  | nil => simp [replaceFrom]
  | cons a s ih =>
    obtain ⟨ha, hs⟩ : sep ≠ a ∧ sep ∉ s := by simpa using hs
    cases k with
    | succ k => exact ih hs
    | zero =>
      rw [replaceFrom]
      split
      · simp [hnew, ih hs]
      · simp [ha, ih hs]

/-- An element of neither text does not appear. -/
theorem not_mem_replaceAll (hnew : sep ∉ new) (hs : sep ∉ s) : sep ∉ replaceAll old new s :=
  not_mem_replaceFrom hnew hs

end Replace

/-! ### Placeholders and substitution -/

/-- The placeholder of a name. -/
def placeholder (opening closing : α) (name : List α) : List α :=
  opening :: (name ++ [closing])

/-- The placeholders of a list of parameters are replaced by the values, one parameter after the
other. -/
def substitute (opening closing : α) (params : List (List α × List α)) (s : List α) : List α :=
  params.foldl (fun s param => replaceAll (placeholder opening closing param.1) param.2 s) s

section Substitute

variable {opening closing sep : α} {params : List (List α × List α)} {name value s t : List α}

@[simp]
theorem substitute_nil : substitute opening closing [] s = s :=
  rfl

@[simp]
theorem substitute_cons (param : List α × List α) :
    substitute opening closing (param :: params) s =
      substitute opening closing params
        (replaceAll (placeholder opening closing param.1) param.2 s) :=
  rfl

omit [DecidableEq α] in
theorem placeholder_ne_nil : placeholder opening closing name ≠ [] := by
  simp [placeholder]

/-- Without an opening delimiter nothing is substituted. -/
theorem substitute_of_not_mem (h : opening ∉ s) : substitute opening closing params s = s := by
  induction params with
  | nil => rfl
  | cons param params ih =>
    rw [substitute_cons, replaceAll_eq_self, ih]
    exact fun hwithin => h (hwithin.subset (by simp [placeholder]))

omit [DecidableEq α] in
/-- The placeholder of a name without delimiters contains no other placeholder. -/
theorem placeholder_not_within {name' : List α} (hne : name' ≠ name) (hopen : opening ∉ name)
    (hclose : closing ∉ name) (hoc : opening ≠ closing) :
    ¬ placeholder opening closing name' <:+: placeholder opening closing name := by
  rintro ⟨p, q, h⟩
  cases p with
  | cons a p =>
    -- the opening delimiter would have to stand inside the name or at its end
    have htail : p ++ placeholder opening closing name' ++ q = name ++ [closing] := by
      simpa [placeholder] using (List.cons.inj h).2
    have hmem : opening ∈ name ++ [closing] := by
      rw [← htail]
      simp [placeholder]
    simp [hopen, hoc] at hmem
  | nil =>
    have htail : name ++ closing :: [] = name' ++ closing :: q := by
      simpa [placeholder] using h.symm
    exact hne ((List.append_cons_inj_of_notMem hclose (by simp)).1 htail).1.symm

/-- A text that is one placeholder becomes the value, with the parameters after it substituted
into the value. -/
theorem substitute_placeholder (hoc : opening ≠ closing) (hopen : opening ∉ name)
    (hclose : closing ∉ name) (hkeys : (params.map Prod.fst).Nodup)
    (hmem : (name, value) ∈ params) :
    ∃ later, later <:+ params ∧
      substitute opening closing params (placeholder opening closing name) =
        substitute opening closing later value := by
  induction params with
  | nil => simp at hmem
  | cons param params ih =>
    obtain ⟨hnew, hkeys⟩ := List.nodup_cons.1 hkeys
    rcases List.mem_cons.1 hmem with rfl | hmem
    · refine ⟨params, List.suffix_cons _ _, ?_⟩
      rw [substitute_cons, replaceAll_self placeholder_ne_nil]
    · obtain ⟨later, hlater, heq⟩ := ih hkeys hmem
      have hne : param.1 ≠ name := by
        rintro rfl
        exact hnew (List.mem_map.2 ⟨_, hmem, rfl⟩)
      refine ⟨later, hlater.trans (List.suffix_cons _ _), ?_⟩
      rw [substitute_cons, replaceAll_eq_self (placeholder_not_within hne hopen hclose hoc), heq]

/-- A value without an opening delimiter is what its placeholder becomes, in whatever order the
parameters come. -/
theorem substitute_placeholder_eq (hoc : opening ≠ closing) (hopen : opening ∉ name)
    (hclose : closing ∉ name) (hkeys : (params.map Prod.fst).Nodup)
    (hmem : (name, value) ∈ params) (hvalue : opening ∉ value) :
    substitute opening closing params (placeholder opening closing name) = value := by
  obtain ⟨later, -, heq⟩ := substitute_placeholder hoc hopen hclose hkeys hmem
  rw [heq, substitute_of_not_mem hvalue]

/-! ### Separators -/

/-- No placeholder of the parameters contains the separator. -/
def Separates (opening closing sep : α) (params : List (List α × List α)) : Prop :=
  ∀ param ∈ params, sep ∉ placeholder opening closing param.1

omit [DecidableEq α] in
theorem Separates.of_suffix {later : List (List α × List α)}
    (h : Separates opening closing sep params) (hlater : later <:+ params) :
    Separates opening closing sep later :=
  fun param hparam => h param (hlater.subset hparam)

/-- Substitution works on both sides of a separator. -/
theorem substitute_append_cons (h : Separates opening closing sep params) :
    substitute opening closing params (s ++ sep :: t) =
      substitute opening closing params s ++ sep :: substitute opening closing params t := by
  induction params generalizing s t with
  | nil => rfl
  | cons param params ih =>
    have hparam := h param List.mem_cons_self
    rw [substitute_cons, replaceAll_append_cons placeholder_ne_nil hparam,
      ih (h.of_suffix (List.suffix_cons _ _))]
    rfl

/-- Substitution works piece by piece. -/
theorem substitute_intercalate (h : Separates opening closing sep params)
    (pieces : List (List α)) :
    substitute opening closing params ([sep].intercalate pieces) =
      [sep].intercalate (pieces.map (substitute opening closing params)) := by
  induction pieces with
  | nil => exact substitute_of_not_mem (by simp)
  | cons piece pieces ih =>
    cases pieces with
    | nil => simp
    | cons piece' pieces =>
      rw [List.intercalate_cons_cons, List.append_assoc, List.singleton_append,
        substitute_append_cons h, ih]
      simp [List.intercalate_cons_cons]

/-- Separators are kept. -/
theorem mem_substitute_of_mem (h : Separates opening closing sep params) (hs : sep ∈ s) :
    sep ∈ substitute opening closing params s := by
  induction params generalizing s with
  | nil => exact hs
  | cons param params ih =>
    have hparam := h param List.mem_cons_self
    exact ih (h.of_suffix (List.suffix_cons _ _))
      (mem_replaceAll_of_mem placeholder_ne_nil hparam hs)

/-- All separators that are added come from the values. -/
theorem not_mem_substitute (hvalues : ∀ param ∈ params, sep ∉ param.2) (hs : sep ∉ s) :
    sep ∉ substitute opening closing params s := by
  induction params generalizing s with
  | nil => exact hs
  | cons param params ih =>
    exact ih (fun param' hparam' => hvalues param' (List.mem_cons_of_mem _ hparam'))
      (not_mem_replaceAll (hvalues param List.mem_cons_self) hs)

/-- The separators of a value are found in what its placeholder becomes. -/
theorem mem_substitute_placeholder (h : Separates opening closing sep params)
    (hoc : opening ≠ closing) (hopen : opening ∉ name) (hclose : closing ∉ name)
    (hkeys : (params.map Prod.fst).Nodup) (hmem : (name, value) ∈ params) (hsep : sep ∈ value) :
    sep ∈ substitute opening closing params (placeholder opening closing name) := by
  obtain ⟨later, hlater, heq⟩ := substitute_placeholder hoc hopen hclose hkeys hmem
  rw [heq]
  exact mem_substitute_of_mem (h.of_suffix hlater) hsep

end Substitute

/-! ### Templates as lists of pieces -/

/-- A piece of a template: a fixed text, or the placeholder of a name. -/
inductive Piece (α : Type*)
  | lit (text : List α)
  | hole (name : List α)
  deriving DecidableEq, Repr

/-- The text of a piece in the template. -/
def Piece.text (opening closing : α) : Piece α → List α
  | .lit text => text
  | .hole name => placeholder opening closing name

/-- What a piece becomes: a placeholder becomes the value of its name. -/
def Piece.fill (opening closing : α) (params : List (List α × List α)) : Piece α → List α
  | .lit text => text
  | .hole name => (params.lookup name).getD (placeholder opening closing name)

@[simp]
theorem Piece.fill_lit (opening closing : α) (params : List (List α × List α)) (text : List α) :
    Piece.fill opening closing params (.lit text) = text :=
  rfl

@[simp]
theorem Piece.fill_hole_cons (opening closing : α) (params : List (List α × List α))
    (name key value : List α) :
    Piece.fill opening closing ((key, value) :: params) (.hole name) =
      if name = key then value else Piece.fill opening closing params (.hole name) := by
  by_cases h : name = key
  · simp [Piece.fill, h]
  · have hbeq : (name == key) = false := by simpa using h
    simp [Piece.fill, List.lookup_cons, h, hbeq]

/-- The text of a template, its pieces joined by the separator. -/
def template (opening closing sep : α) (pieces : List (Piece α)) : List α :=
  [sep].intercalate (pieces.map (Piece.text opening closing))

/-- Names that a template can use: distinct, and without delimiters and separators. -/
structure Names (opening closing sep : α) (names : List (List α)) : Prop where
  nodup : names.Nodup
  opening_not_mem : ∀ name ∈ names, opening ∉ name
  closing_not_mem : ∀ name ∈ names, closing ∉ name
  sep_not_mem : ∀ name ∈ names, sep ∉ name
  opening_ne_closing : opening ≠ closing
  sep_ne_opening : sep ≠ opening
  sep_ne_closing : sep ≠ closing

instance (opening closing sep : α) (names : List (List α)) :
    Decidable (Names opening closing sep names) :=
  decidable_of_iff (names.Nodup ∧ (∀ name ∈ names, opening ∉ name ∧ closing ∉ name ∧ sep ∉ name) ∧
      opening ≠ closing ∧ sep ≠ opening ∧ sep ≠ closing)
    ⟨fun h => ⟨h.1, fun name hname => (h.2.1 name hname).1,
        fun name hname => (h.2.1 name hname).2.1, fun name hname => (h.2.1 name hname).2.2,
        h.2.2.1, h.2.2.2.1, h.2.2.2.2⟩,
      fun h => ⟨h.nodup, fun name hname => ⟨h.opening_not_mem name hname,
        h.closing_not_mem name hname, h.sep_not_mem name hname⟩,
        h.opening_ne_closing, h.sep_ne_opening, h.sep_ne_closing⟩⟩

/-- A piece whose fixed text has neither an opening delimiter nor a separator, or whose name is
one of the parameters. -/
def Piece.Uses (opening sep : α) (names : List (List α)) : Piece α → Prop
  | .lit text => opening ∉ text ∧ sep ∉ text
  | .hole name => name ∈ names

instance (opening sep : α) (names : List (List α)) (piece : Piece α) :
    Decidable (piece.Uses opening sep names) := by
  cases piece <;> unfold Piece.Uses <;> infer_instance

section Templates

variable {opening closing sep : α} {params params' : List (List α × List α)}
  {pieces : List (Piece α)} {piece : Piece α}

omit [DecidableEq α] in
theorem Names.separates (h : Names opening closing sep (params.map Prod.fst)) :
    Separates opening closing sep params := by
  intro param hparam
  have hname := h.sep_not_mem param.1 (List.mem_map_of_mem hparam)
  simp [placeholder, hname, h.sep_ne_opening, h.sep_ne_closing]

omit [DecidableEq α] in
theorem Names.of_perm {names names' : List (List α)} (h : Names opening closing sep names)
    (hperm : names'.Perm names) : Names opening closing sep names' where
  nodup := hperm.nodup_iff.2 h.nodup
  opening_not_mem name hname := h.opening_not_mem name (hperm.mem_iff.1 hname)
  closing_not_mem name hname := h.closing_not_mem name (hperm.mem_iff.1 hname)
  sep_not_mem name hname := h.sep_not_mem name (hperm.mem_iff.1 hname)
  opening_ne_closing := h.opening_ne_closing
  sep_ne_opening := h.sep_ne_opening
  sep_ne_closing := h.sep_ne_closing

omit [DecidableEq α] in
theorem Names.perm (h : Names opening closing sep (params.map Prod.fst))
    (hperm : params'.Perm params) : Names opening closing sep (params'.map Prod.fst) :=
  h.of_perm (hperm.map Prod.fst)

/-- The value that a list of parameters has for one of its names. -/
theorem exists_lookup_of_mem {name : List α} (h : name ∈ params.map Prod.fst) :
    ∃ value, params.lookup name = some value ∧ (name, value) ∈ params := by
  induction params with
  | nil => simp at h
  | cons param params ih =>
    obtain ⟨name', value'⟩ := param
    by_cases heq : name = name'
    · subst heq
      exact ⟨value', by simp, by simp⟩
    · obtain ⟨value, hlookup, hmem⟩ := ih (by simpa [heq] using h)
      have hbeq : (name == name') = false := by simpa using heq
      refine ⟨value, ?_, List.mem_cons_of_mem _ hmem⟩
      rw [List.lookup_cons, hbeq]
      exact hlookup

/-- A piece filled with a value that has no separator has none. -/
theorem Piece.not_mem_fill (hvalues : ∀ param ∈ params, sep ∉ param.2)
    (hpiece : piece.Uses opening sep (params.map Prod.fst)) :
    sep ∉ piece.fill opening closing params := by
  cases piece with
  | lit text => exact hpiece.2
  | hole name =>
    obtain ⟨value, hlookup, hmem⟩ := exists_lookup_of_mem hpiece
    rw [Piece.fill, hlookup]
    exact hvalues _ hmem

/-- Whatever the values are, a filled piece has a separator only when a value has one. -/
theorem not_mem_substitute_piece (h : Names opening closing sep (params.map Prod.fst))
    (hperm : params'.Perm params) (hvalues : ∀ param ∈ params, sep ∉ param.2)
    (hpiece : piece.Uses opening sep (params.map Prod.fst)) :
    sep ∉ substitute opening closing params' (piece.text opening closing) := by
  refine not_mem_substitute (fun param hparam => hvalues param (hperm.mem_iff.1 hparam)) ?_
  cases piece with
  | lit text => exact hpiece.2
  | hole name =>
    have hname := h.sep_not_mem name hpiece
    simp [Piece.text, placeholder, hname, h.sep_ne_opening, h.sep_ne_closing]

/-- Whatever the values are, the separators of a value are in the piece of its name. -/
theorem mem_substitute_hole (h : Names opening closing sep (params.map Prod.fst))
    (hperm : params'.Perm params) {name value : List α} (hmem : (name, value) ∈ params)
    (hsep : sep ∈ value) :
    sep ∈ substitute opening closing params' (Piece.text opening closing (.hole name)) := by
  have hname : name ∈ params.map Prod.fst := List.mem_map.2 ⟨_, hmem, rfl⟩
  exact mem_substitute_placeholder (h.perm hperm).separates h.opening_ne_closing
    (h.opening_not_mem name hname) (h.closing_not_mem name hname) (h.perm hperm).nodup
    (hperm.mem_iff.2 hmem) hsep

end Templates

/-! ### The pieces of a joined text -/

omit [DecidableEq α] in
/-- A text is split at its first separator in one way only. Unlike in
`List.append_cons_inj_of_notMem`, there may be more separators in what follows. -/
theorem first_sep_inj {sep : α} {s s' t t' : List α} (hs : sep ∉ s) (hs' : sep ∉ s') :
    s ++ sep :: t = s' ++ sep :: t' ↔ s = s' ∧ t = t' := by
  constructor
  · intro h
    -- what one word has more than the other would start with a separator
    rcases List.append_eq_append_iff.1 h with ⟨more, rfl, hmore⟩ | ⟨more, rfl, hmore⟩
    all_goals
      cases more with
      | nil => simpa [eq_comm] using hmore
      | cons a more =>
        obtain ⟨rfl, -⟩ := List.cons.inj hmore
        simp at hs hs'
  · rintro ⟨rfl, rfl⟩
    rfl

omit [DecidableEq α] in
/-- A text that starts with a word and a separator: the prefixes of the same form. -/
theorem prefix_cons_iff {sep : α} {word word' rest rest' : List α} (hword : sep ∉ word)
    (hword' : sep ∉ word') :
    word ++ sep :: rest <+: word' ++ sep :: rest' ↔ word = word' ∧ rest <+: rest' := by
  constructor
  · rintro ⟨t, ht⟩
    rw [List.append_assoc, List.cons_append] at ht
    obtain ⟨hword, hrest⟩ := (first_sep_inj hword hword').1 ht
    exact ⟨hword, t, hrest⟩
  · rintro ⟨rfl, t, rfl⟩
    exact ⟨t, by simp⟩

omit [DecidableEq α] in
/-- A text that ends with a separator and a word: the suffixes of the same form. -/
theorem suffix_cons_iff {sep : α} {word word' rest' : List α} (hword : sep ∉ word)
    (hword' : sep ∉ word') : sep :: word <:+ rest' ++ sep :: word' ↔ word = word' := by
  rw [← List.reverse_prefix, List.reverse_append, List.reverse_cons, List.reverse_cons,
    List.append_assoc, List.singleton_append, prefix_cons_iff (by simpa) (by simpa)]
  simp

omit [DecidableEq α] in
theorem intercalate_append_singleton (sep : α) (piece last : List α) (pieces : List (List α)) :
    [sep].intercalate (piece :: pieces ++ [last]) =
      [sep].intercalate (piece :: pieces) ++ sep :: last := by
  induction pieces generalizing piece with
  | nil => simp [List.intercalate_cons_cons]
  | cons piece' pieces ih =>
    rw [List.cons_append, List.cons_append, List.intercalate_cons_cons, ← List.cons_append, ih,
      List.intercalate_cons_cons]
    simp

/-- A text joined from pieces is split at the separators between the pieces and at those inside
them. -/
theorem splitOn_intercalate_eq_flatMap (sep : α) {pieces : List (List α)} (h : pieces ≠ []) :
    ([sep].intercalate pieces).splitOn sep = pieces.flatMap (List.splitOn sep) := by
  induction pieces with
  | nil => exact absurd rfl h
  | cons piece pieces ih =>
    cases pieces with
    | nil => simp
    | cons piece' pieces =>
      rw [List.intercalate_cons_cons, List.append_assoc, List.singleton_append, List.splitOn,
        List.splitOnP_append_cons _ _ (by simp)]
      exact congrArg _ (ih (by simp))

theorem one_lt_length_splitOn {sep : α} {s : List α} (h : sep ∈ s) :
    1 < (s.splitOn sep).length := by
  obtain ⟨a, b, rfl⟩ := List.append_of_mem h
  have ha := List.length_pos_iff.2 (List.splitOn_ne_nil sep a)
  have hb := List.length_pos_iff.2 (List.splitOn_ne_nil sep b)
  rw [List.splitOn] at ha hb ⊢
  rw [List.splitOnP_append_cons _ _ (by simp), List.length_append]
  omega

/-- There are at least as many parts as pieces. -/
theorem length_le_length_flatMap_splitOn (sep : α) (pieces : List (List α)) :
    pieces.length ≤ (pieces.flatMap (List.splitOn sep)).length := by
  induction pieces with
  | nil => simp
  | cons piece pieces ih =>
    have := List.length_pos_iff.2 (List.splitOn_ne_nil sep piece)
    simp only [List.flatMap_cons, List.length_append, List.length_cons]
    omega

/-- When there are no more parts than pieces, no piece has a separator. -/
theorem not_mem_of_length_flatMap_splitOn {sep : α} {pieces : List (List α)}
    (h : (pieces.flatMap (List.splitOn sep)).length ≤ pieces.length) :
    ∀ piece ∈ pieces, sep ∉ piece := by
  induction pieces with
  | nil => simp
  | cons piece pieces ih =>
    have hpos := List.length_pos_iff.2 (List.splitOn_ne_nil sep piece)
    have hle := length_le_length_flatMap_splitOn sep pieces
    simp only [List.flatMap_cons, List.length_append, List.length_cons] at h
    refine List.forall_mem_cons.2 ⟨fun hmem => ?_, ih (by omega)⟩
    have := one_lt_length_splitOn hmem
    omega

end Grctl.Text
