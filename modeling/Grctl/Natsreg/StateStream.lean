import Grctl.Natsreg.Manifest

/-!
# The subjects of the state stream

`EnsureStateStream` (`jsstore/streams.go`) creates the state stream with a list of subject patterns.
A message whose subject matches none of them is not stored, and neither is one whose subject is not
one of NATS: its tokens must not be empty and have no whitespace. Most families of subjects are
listed with `>` and take any such text; the descriptions, inputs, outputs and errors of runs and the
key-value pairs are listed with `*`, which stands for one token. This file says which subjects have
a place in the stream for arbitrary arguments, and in whatever order the parameters are substituted.

## Main definitions

* `Manifest.stateStreamSubjects`: the patterns of `EnsureStateStream`.
* `InStream`: a text is a subject of NATS and matches one of them.

## Main results

* `Fits.subjectText_iff`: a substituted pattern is a subject exactly when the values can be part of
  one.
* `Subject.inStream_iff`: the stream takes the messages of a subject exactly if `Subject.Taken`
  holds of its arguments.
* `inStream_registry_iff`: the same for the subjects of the registry.
-/

namespace Grctl

open Text

/-- `strings.ReplaceAll`, for a text to replace that is not empty. -/
def stringsReplaceAll (s old new : String) : String :=
  String.ofList (replaceAll old.toList new.toList s.toList)

namespace Manifest

/-- `AllRunsInfoKeyPattern`. -/
def allRunsInfoKeyPattern : String :=
  let pattern := subjectPattern "run_store" "info"
  let pattern := stringsReplaceAll pattern "\x7bwf_type\x7d" "*"
  let pattern := stringsReplaceAll pattern "\x7bwf_id\x7d" "*"
  stringsReplaceAll pattern "\x7brun_id\x7d" "*"

/-- `AllRunsInputKeyPattern`, `AllRunsOutputKeyPattern` and `AllRunsErrorKeyPattern`, which differ
in the key of the pattern. -/
def allRunsKeyPattern (patternKey : String) : String :=
  let pattern := subjectPattern "run_store" patternKey
  let pattern := stringsReplaceAll pattern "\x7bwf_id\x7d" "*"
  stringsReplaceAll pattern "\x7brun_id\x7d" "*"

/-- `AllRunsInputKeyPattern`. -/
def allRunsInputKeyPattern : String :=
  allRunsKeyPattern "input"

/-- `AllRunsOutputKeyPattern`. -/
def allRunsOutputKeyPattern : String :=
  allRunsKeyPattern "output"

/-- `AllRunsErrorKeyPattern`. -/
def allRunsErrorKeyPattern : String :=
  allRunsKeyPattern "error"

/-- `AllWfKVKeyPattern`. -/
def allWfKVKeyPattern : String :=
  let pattern := subjectPattern "kv_store" "kv"
  let pattern := stringsReplaceAll pattern "\x7bwf_id\x7d" "*"
  let pattern := stringsReplaceAll pattern "\x7brun_id\x7d" "*"
  stringsReplaceAll pattern "\x7bkey\x7d" "*"

/-- The subjects that `EnsureStateStream` configures. -/
def stateStreamSubjects : List String :=
  [subjectPattern "directive" "listen",
    subjectPattern "history" "listen",
    subjectPattern "timer" "listen",
    subjectPattern "timer_fired" "publish",
    allRunsInfoKeyPattern,
    allRunsInputKeyPattern,
    allRunsOutputKeyPattern,
    allRunsErrorKeyPattern,
    allWfKVKeyPattern,
    subjectPattern "events" "listen",
    subjectPattern "run_state" "listen",
    subjectPattern "worker_task" "listen",
    bgTaskSubject,
    subjectPattern "workflow_type_registry" "listen"]

end Manifest

open Manifest

/-- The stream takes messages with this subject: it is one of NATS, and is configured. -/
def InStream (subject : String) : Prop :=
  SubjectText subject ∧ ∃ pattern ∈ stateStreamSubjects, matchesSubject pattern subject = true
  deriving Decidable

/-- The tokens of the configured patterns. -/
def stateStreamTokens : List (List (List Char)) :=
  [["grctl_directive".toList, ['>']],
    ["grctl_history".toList, ['>']],
    ["grctl_timers".toList, ['>']],
    ["grctl_timers_fired".toList],
    ["grctl_run".toList, ['*'], ['*'], ['*'], "info".toList],
    ["grctl_run".toList, ['*'], ['*'], "input".toList],
    ["grctl_run".toList, ['*'], ['*'], "output".toList],
    ["grctl_run".toList, ['*'], ['*'], "error".toList],
    ["grctl_wf_kv".toList, ['*'], ['*'], ['*']],
    ["grctl_events".toList, ['>']],
    ["grctl_state".toList, "run_state".toList, ['>']],
    ["grctl_worker_task".toList, ['>']],
    ["grctl_bg_task".toList],
    ["grctl_registry".toList, ['>']]]

theorem map_splitOn_stateStreamSubjects :
    stateStreamSubjects.map (fun pattern => pattern.toList.splitOn '.') = stateStreamTokens := by
  decide +kernel

/-- A subject has a place when its tokens match those of a configured pattern. -/
theorem inStream_iff {subject : String} :
    InStream subject ↔
      SubjectText subject ∧ ∃ tokens ∈ stateStreamTokens,
        matchTokens '*' '>' tokens (subject.toList.splitOn '.') = true := by
  simp [InStream, ← map_splitOn_stateStreamSubjects, matchesSubject, matchesPattern]

/-- A subject that matches a pattern has a place exactly when it is a subject. -/
theorem inStream_iff_of_tokens {subject : String} {tokens : List (List Char)} {i : ℕ}
    (h : matchTokens '*' '>' tokens (subject.toList.splitOn '.') = true)
    (hi : stateStreamTokens[i]? = some tokens) : InStream subject ↔ SubjectText subject := by
  rw [inStream_iff]
  exact and_iff_left ⟨tokens, List.mem_of_getElem? hi, h⟩

/-! ### Substituted patterns with arbitrary values -/

section Arbitrary

variable (it : Iteration) {pattern : String} {params : List (String × String)}
  {pieces : List (Piece Char)}

/-- The pieces of a pattern after substitution. -/
def substitutedPieces (params : List (String × String)) (pieces : List (Piece Char)) :
    List (List Char) :=
  pieces.map fun piece => substitute '{' '}' (charParams (it.order params)) (piece.text '{' '}')

theorem Fits.splitOn_substituteParams (h : Fits pattern (params.map Prod.fst) pieces) :
    (substituteParams it pattern params).toList.splitOn '.' =
      (substitutedPieces it params pieces).flatMap (List.splitOn '.') := by
  rw [h.toList_eq, splitOn_intercalate_eq_flatMap '.' (by simpa using h.ne_nil), substitutedPieces]

/-- A fixed piece stays as it is. -/
theorem substitutedPieces_lit {text : List Char} {rest : List (Piece Char)}
    {keys : List (List Char)} (h : Piece.Uses '{' '.' keys (.lit text)) :
    (substitutedPieces it params (.lit text :: rest)).flatMap (List.splitOn '.') =
      text :: (substitutedPieces it params rest).flatMap (List.splitOn '.') := by
  obtain ⟨hopen, hdot⟩ : '{' ∉ text ∧ '.' ∉ text := h
  simp [substitutedPieces, Piece.text, substitute_of_not_mem hopen, List.splitOn_eq_singleton hdot]

theorem substitutedPieces_ne_nil {piece : Piece Char} {rest : List (Piece Char)} :
    (substitutedPieces it params (piece :: rest)).flatMap (List.splitOn '.') ≠ [] := by
  simp [substitutedPieces, List.splitOn_ne_nil]

/-- Without dots in the values, every piece is one token. -/
theorem Fits.splitOn_of_dotFree (h : Fits pattern (params.map Prod.fst) pieces)
    (hvalues : ∀ param ∈ params, DotFree param.2) :
    (substituteParams it pattern params).toList.splitOn '.' =
      substitutedPieces it params pieces := by
  have hdot : ∀ param ∈ charParams params, '.' ∉ param.2 :=
    (forall_mem_charParams (P := fun value => '.' ∉ value)).2 hvalues
  have hpieces : ∀ text ∈ substitutedPieces it params pieces, '.' ∉ text := by
    simp only [substitutedPieces, List.forall_mem_map]
    exact fun piece hpiece => not_mem_substitute_piece h.names_charParams
      (charParams_order_perm it) hdot (h.uses_charParams piece hpiece)
  rw [h.splitOn_substituteParams it,
    List.flatMap_congr fun text htext => List.splitOn_eq_singleton (hpieces text htext)]
  exact List.flatMap_singleton' _

/-- When a substituted pattern has no more tokens than the pattern has pieces, the values that it
uses have no dots. -/
theorem Fits.dotFree_of_length (h : Fits pattern (params.map Prod.fst) pieces)
    (hlength : ((substituteParams it pattern params).toList.splitOn '.').length ≤ pieces.length)
    {key value : String} (hparam : (key, value) ∈ params) (hhole : .hole key.toList ∈ pieces) :
    DotFree value := by
  have hmem : (key.toList, value.toList) ∈ charParams params := List.mem_map.2 ⟨_, hparam, rfl⟩
  intro hdot
  rw [h.splitOn_substituteParams it] at hlength
  refine not_mem_of_length_flatMap_splitOn (by simpa [substitutedPieces] using hlength) _
    (List.mem_map.2 ⟨_, hhole, rfl⟩) ?_
  exact mem_substitute_hole h.names_charParams (charParams_order_perm it) hmem hdot

/-- The last piece, if it is fixed, is the last token. -/
theorem substitutedPieces_concat_lit {text : List Char} {pieces : List (Piece Char)}
    {keys : List (List Char)} (h : Piece.Uses '{' '.' keys (.lit text)) :
    (substitutedPieces it params (pieces ++ [.lit text])).flatMap (List.splitOn '.') =
      (substitutedPieces it params pieces).flatMap (List.splitOn '.') ++ [text] := by
  obtain ⟨hopen, hdot⟩ : '{' ∉ text ∧ '.' ∉ text := h
  simp [substitutedPieces, Piece.text, substitute_of_not_mem hopen, List.splitOn_eq_singleton hdot]

/-- A subject that starts with a fixed token and goes on matches the pattern of that token
and `>`. -/
theorem Fits.matches_many {text : List Char} {piece : Piece Char} {rest : List (Piece Char)}
    (h : Fits pattern (params.map Prod.fst) (.lit text :: piece :: rest)) :
    matchTokens '*' '>' [text, ['>']] ((substituteParams it pattern params).toList.splitOn '.') =
      true := by
  rw [h.splitOn_substituteParams it, substitutedPieces_lit it (h.uses _ List.mem_cons_self)]
  simp [matchTokens_many (substitutedPieces_ne_nil it)]

/-- The tokens of the pattern that has `*` in place of the placeholders. -/
def starred (pieces : List (Piece Char)) : List (List Char) :=
  pieces.map fun
    | .lit text => text
    | .hole _ => ['*']

/-- Without dots in the values, a substituted pattern matches the pattern with `*`. -/
theorem Fits.matches_starred (h : Fits pattern (params.map Prod.fst) pieces)
    (hvalues : ∀ param ∈ params, DotFree param.2) :
    matchTokens '*' '>' (starred pieces) ((substituteParams it pattern params).toList.splitOn '.') =
      true := by
  rw [h.splitOn_of_dotFree it hvalues, substitutedPieces, starred]
  refine matchTokens_map fun piece hpiece => ?_
  cases piece with
  | lit text =>
    have huses : '{' ∉ text ∧ '.' ∉ text := h.uses _ hpiece
    exact .inr (substitute_of_not_mem huses.1).symm
  | hole name => exact .inl rfl

/-- The fixed texts of a template are tokens of subjects, and its names have no whitespace. -/
def PlainPieces (pieces : List (Piece Char)) : Prop :=
  ∀ piece ∈ pieces, ProperToken Char.isWhitespace (piece.text '{' '}')

instance (pieces : List (Piece Char)) : Decidable (PlainPieces pieces) :=
  inferInstanceAs (Decidable (∀ piece ∈ pieces, ProperToken _ (piece.text '{' '}')))

/-- The names of the parameters stand in the template. -/
def UsesAll (params : List (String × String)) (pieces : List (Piece Char)) : Prop :=
  ∀ param ∈ params, .hole param.1.toList ∈ pieces

theorem PlainPieces.blankFree (h : PlainPieces pieces) (hkeys : UsesAll params pieces) :
    BlankFree Char.isWhitespace '{' '}' (charParams params) := by
  intro param hparam
  obtain ⟨param', hparam', rfl⟩ := List.mem_map.1 hparam
  exact (h _ (hkeys param' hparam')).2

/-- A substituted pattern is a subject exactly when the values can be part of one. -/
theorem Fits.subjectText_iff (h : Fits pattern (params.map Prod.fst) pieces)
    (hplain : PlainPieces pieces) (hkeys : UsesAll params pieces) :
    SubjectText (substituteParams it pattern params) ↔ ∀ param ∈ params, SubjectText param.2 := by
  have hblank := hplain.blankFree hkeys
  rw [SubjectText, h.toList_eq, wellFormed_intercalate (by simpa using h.ne_nil)]
  constructor
  · intro hpieces param hparam
    exact wellFormed_of_substitute_hole h.names_charParams (charParams_order_perm it) hblank
      (List.mem_map.2 ⟨param, hparam, rfl⟩) (hpieces _ (List.mem_map_of_mem (hkeys param hparam)))
  · intro hvalues text htext
    obtain ⟨piece, hpiece, rfl⟩ := List.mem_map.1 htext
    refine wellFormed_substitute_piece h.names_charParams (charParams_order_perm it) hblank
      (forall_mem_charParams.2 hvalues) (h.uses_charParams piece hpiece) fun text heq => ?_
    subst heq
    exact hplain _ hpiece

/-- The pattern with which the stream lists a family of subjects with `*`, and that no other pattern
that these subjects match has more tokens. -/
structure Starred (pattern : String) (params : List (String × String))
    (pieces : List (Piece Char)) : Prop where
  fits : Fits pattern (params.map Prod.fst) pieces
  plain : PlainPieces pieces
  usesAll : UsesAll params pieces
  listed : starred pieces ∈ stateStreamTokens
  bounded : ∀ tokens ∈ stateStreamTokens,
    matchTokens '*' '>' tokens ((substituteParams it pattern params).toList.splitOn '.') = true →
      ['>'] ∉ tokens ∧ tokens.length ≤ pieces.length

/-- A subject of a family that is listed with `*` has a place exactly when the values are single
tokens. -/
theorem Starred.inStream_iff (h : Starred it pattern params pieces) :
    InStream (substituteParams it pattern params) ↔ ∀ param ∈ params, SubjectToken param.2 := by
  constructor
  · intro hin param hparam
    obtain ⟨htext, tokens, hmem, hmatch⟩ := Grctl.inStream_iff.1 hin
    obtain ⟨hmany, hlength⟩ := h.bounded tokens hmem hmatch
    refine ⟨(h.fits.subjectText_iff it h.plain h.usesAll).1 htext param hparam,
      h.fits.dotFree_of_length it ?_ hparam (h.usesAll param hparam)⟩
    exact (length_of_matchTokens hmany hmatch).trans_le hlength
  · intro htokens
    refine Grctl.inStream_iff.2 ⟨(h.fits.subjectText_iff it h.plain h.usesAll).2
      fun param hparam => (htokens param hparam).1, _, h.listed, ?_⟩
    exact h.fits.matches_starred it fun param hparam => (htokens param hparam).2

/-- The patterns that a subject can match, by its first token. -/
theorem Fits.head_of_matches {text : List Char} {rest : List (Piece Char)}
    {tokens : List (List Char)} (h : Fits pattern (params.map Prod.fst) (.lit text :: rest))
    (hmatch : matchTokens '*' '>' tokens
      ((substituteParams it pattern params).toList.splitOn '.') = true) :
    tokens.head? ∈ [some ['>'], some ['*'], some text] := by
  rw [h.splitOn_substituteParams it,
    substitutedPieces_lit it (h.uses _ List.mem_cons_self)] at hmatch
  simpa using head_of_matchTokens hmatch

/-- The patterns without `>` that a subject can match, by its last token. -/
theorem Fits.getLast_of_matches {text : List Char} {tokens : List (List Char)}
    (pieces : List (Piece Char))
    (h : Fits pattern (params.map Prod.fst) (pieces ++ [.lit text])) (hmany : ['>'] ∉ tokens)
    (hmatch : matchTokens '*' '>' tokens
      ((substituteParams it pattern params).toList.splitOn '.') = true) :
    tokens.getLast? ∈ [some ['*'], some text] := by
  rw [h.splitOn_substituteParams it,
    substitutedPieces_concat_lit it (h.uses _ (by simp))] at hmatch
  simpa using getLast_of_matchTokens hmany hmatch

end Arbitrary

/-! ### Which subjects have a place -/

section Subjects

variable (it : Iteration) (wfType : WFType) (wfID : WFID) (runID : RunID) (key : String)

/-- The patterns of the families that are listed with `*`, by their first tokens. -/
theorem patterns_of_head :
    (∀ tokens ∈ stateStreamTokens,
      tokens.head? ∈ [some ['>'], some ['*'], some "grctl_run".toList] →
        ['>'] ∉ tokens ∧ tokens.length ≤ 5 ∧
          ∀ key ∈ ["input", "output", "error"],
            tokens.getLast? ∈ [some ['*'], some key.toList] → tokens.length ≤ 4) ∧
    ∀ tokens ∈ stateStreamTokens,
      tokens.head? ∈ [some ['>'], some ['*'], some "grctl_wf_kv".toList] →
        ['>'] ∉ tokens ∧ tokens.length ≤ 4 := by
  decide +kernel

theorem starred_runInfo : Starred it (subjectPattern "run_store" "info")
    [("wf_type", wfType), ("wf_id", wfID), ("run_id", runID)]
    [.lit "grctl_run".toList, .hole "wf_type".toList, .hole "wf_id".toList,
      .hole "run_id".toList, .lit "info".toList] where
  fits := fits_runInfo
  plain := by decide
  usesAll := by simp [UsesAll]
  listed := by decide
  bounded tokens hmem hmatch := by
    have hhead := fits_runInfo.head_of_matches it hmatch
    exact (patterns_of_head.1 tokens hmem hhead).imp_right And.left

theorem starred_kv : Starred it (subjectPattern "kv_store" "kv")
    [("wf_id", wfID), ("run_id", runID), ("key", key)]
    [.lit "grctl_wf_kv".toList, .hole "wf_id".toList, .hole "run_id".toList,
      .hole "key".toList] where
  fits := fits_kv
  plain := by decide
  usesAll := by simp [UsesAll]
  listed := by decide
  bounded tokens hmem hmatch := patterns_of_head.2 tokens hmem (fits_kv.head_of_matches it hmatch)

theorem starred_runStore {patternKey : String} (hkey : patternKey ∈ ["input", "output", "error"]) :
    Starred it (subjectPattern "run_store" patternKey) [("wf_id", wfID), ("run_id", runID)]
      [.lit "grctl_run".toList, .hole "wf_id".toList, .hole "run_id".toList,
        .lit patternKey.toList] where
  fits := fits_runStore hkey
  plain := by
    simp only [List.mem_cons, List.not_mem_nil, or_false] at hkey
    rcases hkey with rfl | rfl | rfl <;> decide
  usesAll := by simp [UsesAll]
  listed := by
    simp only [List.mem_cons, List.not_mem_nil, or_false] at hkey
    rcases hkey with rfl | rfl | rfl <;> decide
  bounded tokens hmem hmatch := by
    have hfits := fits_runStore hkey
    obtain ⟨hmany, -, hlast⟩ :=
      patterns_of_head.1 tokens hmem (hfits.head_of_matches it hmatch)
    -- the description of a run has one token more, but another last one
    exact ⟨hmany, hlast patternKey hkey (hfits.getLast_of_matches it
      [.lit "grctl_run".toList, .hole "wf_id".toList, .hole "run_id".toList] hmany hmatch)⟩

/-- A family that is listed with its first token and `>`. -/
theorem Fits.inStream_iff_texts {pattern : String} (params : List (String × String))
    {text : List Char} {piece : Piece Char} {rest : List (Piece Char)} {i : ℕ}
    (h : Fits pattern (params.map Prod.fst) (.lit text :: piece :: rest))
    (hplain : PlainPieces (.lit text :: piece :: rest))
    (hkeys : UsesAll params (.lit text :: piece :: rest))
    (hi : stateStreamTokens[i]? = some [text, ['>']]) :
    InStream (substituteParams it pattern params) ↔ ∀ param ∈ params, SubjectText param.2 := by
  rw [inStream_iff_of_tokens (h.matches_many it) hi, h.subjectText_iff it hplain hkeys]

theorem inStream_runStateSubject_iff :
    InStream (runStateSubject it wfID runID) ↔ SubjectText wfID ∧ SubjectText runID := by
  have hmatch : matchTokens '*' '>' ["grctl_state".toList, "run_state".toList, ['>']]
      ((runStateSubject it wfID runID).toList.splitOn '.') = true := by
    rw [runStateSubject, fits_runState.splitOn_substituteParams it,
      substitutedPieces_lit it (fits_runState.uses _ (by simp)),
      substitutedPieces_lit it (fits_runState.uses _ (by simp))]
    simp [matchTokens_many (substitutedPieces_ne_nil it)]
  rw [inStream_iff_of_tokens (i := 10) hmatch rfl, runStateSubject,
    fits_runState.subjectText_iff it (by decide) (by simp [UsesAll])]
  simp

/-- The stream takes the messages of a subject exactly if `Subject.Taken` holds of it, in whatever
order the parameters of its pattern are substituted. -/
theorem Subject.inStream_iff (s : Subject) : InStream (s.render it) ↔ s.Taken := by
  cases s with
  | directive wfType wfID runID =>
    have h := fits_directive.inStream_iff_texts (i := 0) it
      [("wf_type", wfType), ("wf_id", wfID), ("run_id", runID)] (by decide)
      (by simp [UsesAll]) rfl
    exact h.trans (by simp [Taken])
  | history wfID runID =>
    have h := fits_history.inStream_iff_texts (i := 1) it
      [("wf_id", wfID), ("run_id", runID)] (by decide) (by simp [UsesAll]) rfl
    exact h.trans (by simp [Taken])
  | timer wfID kind timerID =>
    have h := fits_timer.inStream_iff_texts (i := 2) it
      [("wf_id", wfID), ("kind", kind.text), ("timer_id", timerID)] (by decide)
      (by simp [UsesAll]) rfl
    exact h.trans (by simp [Taken])
  | runInfo wfType wfID runID =>
    exact ((starred_runInfo it wfType wfID runID).inStream_iff it).trans (by simp [Taken])
  | runInput wfID runID | runOutput wfID runID | runError wfID runID =>
    exact ((starred_runStore it wfID runID (by decide)).inStream_iff it).trans (by simp [Taken])
  | kv wfID runID key =>
    exact ((starred_kv it wfID runID key).inStream_iff it).trans (by simp [Taken])
  | inbox wfID =>
    have h := fits_inbox.inStream_iff_texts (i := 9) it [("wf_id", wfID)] (by decide)
      (by simp [UsesAll]) rfl
    exact h.trans (by simp [Taken])
  | runState wfID runID => exact inStream_runStateSubject_iff it wfID runID
  | workerTask wfType wfID runID =>
    have h := fits_workerTask.inStream_iff_texts (i := 11) it
      [("wf_type", wfType), ("wf_id", wfID), ("run_id", runID)] (by decide)
      (by simp [UsesAll]) rfl
    exact h.trans (by simp [Taken])
  | bgTask =>
    have htext : SubjectText bgTaskSubject := by decide +kernel
    have hin : InStream bgTaskSubject :=
      Grctl.inStream_iff.2 ⟨htext, ["grctl_bg_task".toList], by decide, by decide +kernel⟩
    exact iff_of_true hin trivial

/-- The stream takes the entry of a workflow type in the registry exactly if the type can be part of
a subject. -/
theorem inStream_registry_iff :
    InStream (workflowTypeRegistrySubject it wfType) ↔ SubjectText wfType := by
  have h := fits_registry.inStream_iff_texts (i := 13) it [("wf_type", wfType)]
    (by decide) (by simp [UsesAll]) rfl
  exact h.trans (by simp)

end Subjects

end Grctl
