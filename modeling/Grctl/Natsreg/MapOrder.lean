import Grctl.Natsreg.Manifest

/-!
# Subjects and the order of map traversal

`substituteParams` goes through a map, whose order Go leaves open, and replaces placeholders in a
text that already has values in it. For every pattern of the manifest this file says for which
arguments the order does not matter: when no argument contains the placeholder of another parameter
(or when that parameter stands for its own placeholder, as in the builders of key prefixes). Then
the subject is the pattern with its placeholders filled; otherwise two traversals of the same map
give two subjects.

A pattern consists of a text in front of its first placeholder and of tokens that are fixed texts or
placeholders (`patternLead`, `patternPieces`).

## Main definitions

* `Manifest.patterns`, `patternLead`, `patternPieces`, `placeholders`, `fillPattern`.
* `Mentions`, `braced`.

## Main results

* `read_patterns`: every pattern of the manifest is read in this way.
* `subject_order_free_iff`: when the order does not matter.
-/

namespace Grctl

open Text

/-- All patterns of the manifest. -/
def Manifest.patterns : List String := subjects.flatMap fun subject => subject.2.map Prod.snd

/-- The text in front of the first placeholder of a pattern. -/
def patternLead (pattern : String) : List Char := pattern.toList.takeWhile (· != '{')

/-- A token of a pattern. -/
def tokenPiece : List Char → Piece Char
  | '{' :: token => .hole token.dropLast
  | token => .lit token

/-- The tokens of a pattern from its first placeholder on. -/
def patternPieces (pattern : String) : List (Piece Char) :=
  ((pattern.toList.dropWhile (· != '{')).splitOn '.').map tokenPiece

/-- The name of a piece that is a placeholder. -/
def holeName? : Piece Char → Option String
  | .lit _ => none
  | .hole name => some (String.ofList name)

/-- The names of the placeholders of a pattern. -/
def placeholders (pattern : String) : List String := (patternPieces pattern).filterMap holeName?

/-- The pattern with its placeholders replaced by the values of the parameters. -/
def fillPattern (pattern : String) (params : List (String × String)) : String :=
  String.ofList (patternLead pattern ++
    ['.'].intercalate ((patternPieces pattern).map (Piece.fill '{' '}' (charParams params))))

/-- The placeholder of a parameter. -/
def braced (key : String) : String := String.ofList (placeholder '{' '}' key.toList)

/-- A value contains the placeholder of a parameter. -/
def Mentions (value key : String) : Prop := (braced key).toList <:+: value.toList

instance (value key : String) : Decidable (Mentions value key) :=
  inferInstanceAs (Decidable (_ <:+: _))

/-- How a pattern is read. -/
structure ReadsAs (pattern : String) : Prop where
  text : pattern.toList = patternLead pattern ++ template '{' '}' '.' (patternPieces pattern)
  lead : '{' ∉ patternLead pattern
  names : Names '{' '}' '.' ((placeholders pattern).map String.toList)
  uses : ∀ piece ∈ patternPieces pattern,
    piece.Uses '{' '.' ((placeholders pattern).map String.toList)

instance (pattern : String) : Decidable (ReadsAs pattern) :=
  decidable_of_iff
    (pattern.toList = patternLead pattern ++ template '{' '}' '.' (patternPieces pattern) ∧
      '{' ∉ patternLead pattern ∧ Names '{' '}' '.' ((placeholders pattern).map String.toList) ∧
      ∀ piece ∈ patternPieces pattern,
        piece.Uses '{' '.' ((placeholders pattern).map String.toList))
    ⟨fun h => ⟨h.1, h.2.1, h.2.2.1, h.2.2.2⟩, fun h => ⟨h.text, h.lead, h.names, h.uses⟩⟩

/-- All patterns of the manifest are read in this way. -/
theorem read_patterns : ∀ pattern ∈ Manifest.patterns, ReadsAs pattern := by
  decide +kernel

/-- The traversal that meets the parameters of one map in a given order. -/
def Iteration.meeting (params order : List (String × String)) (h : order.Perm params) :
    Iteration where
  order params' := if params' = params then order else params'
  perm params' := by
    split_ifs with heq
    · exact heq ▸ h
    · exact .rfl

section Order

variable {pattern : String} {params : List (String × String)}

theorem order_meeting {order : List (String × String)} (h : order.Perm params) :
    (Iteration.meeting params order h).order params = order :=
  if_pos rfl

theorem mem_patternPieces {key : String} (h : key ∈ placeholders pattern) :
    .hole key.toList ∈ patternPieces pattern := by
  obtain ⟨piece, hpiece, hname⟩ := List.mem_filterMap.1 h
  cases piece with
  | lit text => cases hname
  | hole name =>
    cases hname
    simpa using hpiece

/-- The keys of a call are the names of its pattern. -/
theorem keys_perm (hkeys : (params.map Prod.fst).Perm (placeholders pattern)) :
    ((charParams params).map Prod.fst).Perm ((placeholders pattern).map String.toList) :=
  charParams_fst ▸ hkeys.map String.toList

theorem ReadsAs.names_charParams (h : ReadsAs pattern)
    (hkeys : (params.map Prod.fst).Perm (placeholders pattern)) :
    Names '{' '}' '.' ((charParams params).map Prod.fst) :=
  h.names.of_perm (keys_perm hkeys)

theorem ReadsAs.uses_charParams (h : ReadsAs pattern)
    (hkeys : (params.map Prod.fst).Perm (placeholders pattern)) :
    ∀ piece ∈ patternPieces pattern, piece.Uses '{' '.' ((charParams params).map Prod.fst) := by
  intro piece hpiece
  have huses := h.uses piece hpiece
  cases piece with
  | lit text => exact huses
  | hole name => exact (keys_perm hkeys).mem_iff.2 huses

/-- A substituted pattern, in terms of its pieces. -/
theorem ReadsAs.toList_substituteParams (h : ReadsAs pattern) (it : Iteration) :
    (substituteParams it pattern params).toList =
      patternLead pattern ++ substitute '{' '}' (charParams (it.order params))
        (template '{' '}' '.' (patternPieces pattern)) := by
  rw [substituteParams, String.toList_ofList, h.text, substitute_lead h.lead]

/-- No argument contains the placeholder of another parameter, unless that parameter stands for
its own placeholder. -/
def ArgumentsApart (params : List (String × String)) : Prop :=
  ∀ a ∈ params, ∀ b ∈ params, a.1 ≠ b.1 → Mentions a.2 b.1 → b.2 = braced b.1
  deriving Decidable

theorem undisturbed_charParams (h : ArgumentsApart params) :
    Undisturbed '{' '}' (charParams params) := by
  simp only [Undisturbed, charParams, List.forall_mem_map]
  intro a ha b hb hne hmentions
  have hbraced := h a ha b hb (fun heq => hne (congrArg String.toList heq))
    (by simpa [Mentions, braced] using hmentions)
  rw [hbraced, braced, String.toList_ofList]

/-- Arguments that are apart fill the pattern, in every order. -/
theorem ReadsAs.substituteParams_eq (h : ReadsAs pattern)
    (hkeys : (params.map Prod.fst).Perm (placeholders pattern)) (hparams : ArgumentsApart params)
    (it : Iteration) : substituteParams it pattern params = fillPattern pattern params := by
  rw [← String.toList_inj, h.toList_substituteParams, fillPattern, String.toList_ofList,
    substitute_template_of_undisturbed (h.names_charParams hkeys) (charParams_order_perm it)
      (h.uses_charParams hkeys) (undisturbed_charParams hparams)]

/-- Two parameters of a call, and the others. -/
theorem exists_perm_pair {a b : String × String} (ha : a ∈ params) (hb : b ∈ params)
    (hne : a ≠ b) : ∃ rest, (rest ++ [a, b]).Perm params := by
  have hb' : b ∈ params.erase a := (List.mem_erase_of_ne hne.symm).2 hb
  refine ⟨(params.erase a).erase b, ?_⟩
  have hrest : (a :: b :: (params.erase a).erase b).Perm params :=
    ((List.perm_cons_erase hb').symm.cons a).trans (List.perm_cons_erase ha).symm
  exact List.perm_append_comm.trans hrest

theorem charParams_append (params params' : List (String × String)) :
    charParams (params ++ params') = charParams params ++ charParams params' :=
  List.map_append

theorem charParams_perm {params' : List (String × String)} (h : params'.Perm params) :
    (charParams params').Perm (charParams params) :=
  h.map _

/-- The piece of a parameter, when the parameters `later` come after it. -/
theorem ReadsAs.substitute_hole (h : ReadsAs pattern)
    (hkeys : (params.map Prod.fst).Perm (placeholders pattern))
    {rest later : List (String × String)} {a : String × String}
    (hperm : (rest ++ a :: later).Perm params) :
    substitute '{' '}' (charParams (rest ++ a :: later))
        (Piece.text '{' '}' (.hole a.1.toList)) =
      substitute '{' '}' (charParams later) a.2.toList := by
  have hnames := h.names_charParams hkeys
  have hname : a.1.toList ∈ (charParams params).map Prod.fst :=
    List.mem_map.2 ⟨_, List.mem_map.2 ⟨a, hperm.mem_iff.1 (by simp), rfl⟩, rfl⟩
  rw [charParams_append, charParams_cons, Piece.text]
  refine substitute_append_cons_self hnames.opening_ne_closing (hnames.opening_not_mem _ hname)
    (hnames.closing_not_mem _ hname) fun param hparam => ?_
  have hnodup := (hnames.perm (charParams_perm hperm)).nodup
  rw [charParams_append, charParams_cons, List.map_append, List.nodup_append] at hnodup
  exact hnodup.2.2 _ (List.mem_map_of_mem hparam) _ List.mem_cons_self

/-- When the order does not matter, the arguments are apart. -/
theorem ReadsAs.apart_of_order_free (h : ReadsAs pattern)
    (hkeys : (params.map Prod.fst).Perm (placeholders pattern))
    (hvalues : ∀ param ∈ params, IsToken param.2)
    (hfree : ∀ it it', substituteParams it pattern params = substituteParams it' pattern params) :
    ArgumentsApart params := by
  intro a ha b hb hne hmentions
  obtain ⟨rest, hperm⟩ := exists_perm_pair ha hb fun heq => hne (congrArg Prod.fst heq)
  have hperm' : ((rest ++ [b]) ++ [a]).Perm params := by
    refine .trans ?_ hperm
    rw [List.append_assoc]
    exact (List.Perm.swap a b []).append_left rest
  -- in one order `b` comes after `a`, in the other one nothing does
  have htext := congrArg String.toList (hfree (.meeting params _ hperm) (.meeting params _ hperm'))
  rw [h.toList_substituteParams, h.toList_substituteParams, List.append_cancel_left_eq,
    order_meeting, order_meeting] at htext
  have hdot : ∀ param ∈ charParams params, '.' ∉ param.2 :=
    (forall_mem_charParams (P := fun value => '.' ∉ value)).2
      fun param hparam => (hvalues param hparam).dot
  have hhole : .hole a.1.toList ∈ patternPieces pattern :=
    mem_patternPieces (hkeys.mem_iff.1 (List.mem_map_of_mem ha))
  have hpiece := substitute_piece_eq_of_template_eq (h.names_charParams hkeys)
    (charParams_perm hperm) (charParams_perm hperm') hdot (h.uses_charParams hkeys) htext hhole
  rw [h.substitute_hole hkeys hperm, h.substitute_hole hkeys hperm', charParams_cons,
    substitute_cons, charParams_nil, substitute_nil, substitute_nil,
    replaceAll_eq_self_iff placeholder_ne_nil] at hpiece
  have hvalue : b.2.toList = placeholder '{' '}' b.1.toList :=
    hpiece (by simpa [Mentions, braced] using hmentions)
  rw [← String.toList_inj, hvalue, braced, String.toList_ofList]

end Order

/-- **Subjects and the order of maps.** For every pattern of the manifest and arguments that are
single tokens, all traversals of the map of parameters give the same subject exactly when no
argument contains the placeholder of another parameter, and then the subject is the pattern with
its placeholders filled. -/
theorem subject_order_free_iff {pattern : String} (hpattern : pattern ∈ Manifest.patterns)
    {params : List (String × String)}
    (hkeys : (params.map Prod.fst).Perm (placeholders pattern))
    (hvalues : ∀ param ∈ params, IsToken param.2) :
    ((∀ it, substituteParams it pattern params = fillPattern pattern params) ↔
      ArgumentsApart params) ∧
    ((∀ it it', substituteParams it pattern params = substituteParams it' pattern params) ↔
      ArgumentsApart params) := by
  have hread := read_patterns pattern hpattern
  have hfill := hread.substituteParams_eq hkeys
  have hapart := hread.apart_of_order_free hkeys hvalues
  refine ⟨⟨fun h => hapart fun it it' => ?_, hfill⟩, hapart, fun h it it' => ?_⟩
  · rw [h it, h it']
  · rw [hfill h it, hfill h it']

/-- The state of a workflow has one subject when the braces of its identifier stand around
something else than the name of a parameter. -/
theorem subject_order_free_braces :
    ArgumentsApart [("wf_id", "\x7bcart\x7d"), ("run_id", "r1")] ∧
      ∀ it, Manifest.runStateSubject it "\x7bcart\x7d" "r1" =
        "grctl_state.run_state.\x7bcart\x7d.r1" := by
  obtain ⟨hpattern, hkeys, hvalues, happart, hfill⟩ :
      Manifest.subjectPattern "run_state" "publish" ∈ Manifest.patterns ∧
      ([("wf_id", "\x7bcart\x7d"), ("run_id", "r1")].map Prod.fst).Perm
        (placeholders (Manifest.subjectPattern "run_state" "publish")) ∧
      (∀ param ∈ [("wf_id", "\x7bcart\x7d"), ("run_id", "r1")], IsToken param.2) ∧
      ArgumentsApart [("wf_id", "\x7bcart\x7d"), ("run_id", "r1")] ∧
      fillPattern (Manifest.subjectPattern "run_state" "publish")
        [("wf_id", "\x7bcart\x7d"), ("run_id", "r1")] =
          "grctl_state.run_state.\x7bcart\x7d.r1" := by
    decide +kernel
  refine ⟨happart, fun it => ?_⟩
  rw [Manifest.runStateSubject, (subject_order_free_iff hpattern hkeys hvalues).1.2 happart it,
    hfill]

/-- A workflow whose identifier is the placeholder of the run: its state has two subjects. -/
theorem run_state_has_two_subjects :
    IsToken "\x7brun_id\x7d" ∧ IsToken "r1" ∧
    Manifest.runStateSubject .written "\x7brun_id\x7d" "r1" = "grctl_state.run_state.r1.r1" ∧
    Manifest.runStateSubject .reversed "\x7brun_id\x7d" "r1" =
      "grctl_state.run_state.\x7brun_id\x7d.r1" := by
  decide +kernel

end Grctl
