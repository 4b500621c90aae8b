import Grctl.Natsreg.Manifest

/-!
# The families of subjects

Whatever the arguments of a subject builder are, and in whatever order they are substituted, the
first token of the subject is the one in the pattern: it tells the family of the subject. So does
the last token of the subjects under `grctl_run`, which are told apart by it, while the last token
of a key-value pair comes from its key.

## Main definitions

* `Subject.head`, `kvToken`.

## Main results

* `Fits.exists_tail`, `Fits.exists_init`: a substituted pattern, from its ends.
* `Subject.exists_tail`, `Subject.render_ne_runState`.
* `exists_init_kv`, `kvToken_eq`: the subject of a key-value pair ends with its key.
-/

namespace Grctl

open Text Manifest

section Ends

variable (it : Iteration) {pattern : String} {params : List (String × String)}
  {piece last : Piece Char} {pieces : List (Piece Char)}

/-- A fixed token at the beginning. -/
theorem Fits.exists_tail {head : List Char}
    (h : Fits pattern (params.map Prod.fst) (.lit head :: piece :: pieces)) :
    ∃ tail, (substituteParams it pattern params).toList = head ++ '.' :: tail := by
  have hlit : substitute '{' '}' (charParams (it.order params)) head = head :=
    substitute_of_not_mem (h.uses _ List.mem_cons_self).1
  rw [h.toList_eq, List.map_cons, List.map_cons, List.intercalate_cons_cons, Piece.text, hlit,
    List.append_assoc, List.singleton_append]
  exact ⟨_, rfl⟩

/-- Two fixed tokens at the beginning. -/
theorem Fits.exists_tail_two {head head' : List Char}
    (h : Fits pattern (params.map Prod.fst) (.lit head :: .lit head' :: piece :: pieces)) :
    ∃ tail, (substituteParams it pattern params).toList =
      head ++ '.' :: (head' ++ '.' :: tail) := by
  have hlit : ∀ text, .lit text ∈ .lit head :: .lit head' :: piece :: pieces →
      substitute '{' '}' (charParams (it.order params)) text = text :=
    fun text htext => substitute_of_not_mem (h.uses _ htext).1
  rw [h.toList_eq, List.map_cons, List.map_cons, List.map_cons, List.intercalate_cons_cons,
    List.intercalate_cons_cons, Piece.text, Piece.text, hlit head (by simp),
    hlit head' (by simp), List.append_assoc, List.singleton_append, List.append_assoc,
    List.singleton_append]
  exact ⟨_, rfl⟩

/-- The token at the end. -/
theorem Fits.exists_init (piece : Piece Char) (pieces : List (Piece Char))
    (h : Fits pattern (params.map Prod.fst) (piece :: pieces ++ [last])) :
    ∃ init, (substituteParams it pattern params).toList =
      init ++ '.' :: substitute '{' '}' (charParams (it.order params)) (last.text '{' '}') := by
  rw [h.toList_eq, List.map_append, List.map_cons, List.map_cons, List.map_nil,
    intercalate_append_singleton]
  exact ⟨_, rfl⟩

/-- A fixed token at the end. -/
theorem Fits.exists_init_lit (piece : Piece Char) (pieces : List (Piece Char)) {text : List Char}
    (h : Fits pattern (params.map Prod.fst) (piece :: pieces ++ [.lit text])) :
    ∃ init, (substituteParams it pattern params).toList = init ++ '.' :: text := by
  have hlit : substitute '{' '}' (charParams (it.order params)) text = text :=
    substitute_of_not_mem (h.uses (.lit text) (by simp)).1
  obtain ⟨init, hinit⟩ := h.exists_init it piece pieces
  rw [Piece.text, hlit] at hinit
  exact ⟨init, hinit⟩

end Ends

/-- The first token of a subject. -/
def Subject.head : Subject → String
  | .directive .. => "grctl_directive"
  | .history .. => "grctl_history"
  | .timer .. => "grctl_timers"
  | .runInfo .. | .runInput .. | .runOutput .. | .runError .. => "grctl_run"
  | .kv .. => "grctl_wf_kv"
  | .inbox _ => "grctl_events"
  | .runState .. => "grctl_state"
  | .workerTask .. => "grctl_worker_task"
  | .bgTask => "grctl_bg_task"

section Subjects

variable (it it' : Iteration) {s : Subject}

theorem Subject.dot_not_mem_head (s : Subject) : '.' ∉ s.head.toList := by
  cases s <;> simp [head]

/-- Only the subject of background tasks is a single token. -/
theorem Subject.exists_tail (h : s ≠ .bgTask) :
    ∃ tail, (s.render it).toList = s.head.toList ++ '.' :: tail := by
  cases s with
  | directive => exact fits_directive.exists_tail it
  | history => exact fits_history.exists_tail it
  | timer => exact fits_timer.exists_tail it
  | runInfo => exact fits_runInfo.exists_tail it
  | runInput | runOutput | runError => exact (fits_runStore (by decide)).exists_tail it
  | kv => exact fits_kv.exists_tail it
  | inbox => exact fits_inbox.exists_tail it
  | runState => exact fits_runState.exists_tail it
  | workerTask => exact fits_workerTask.exists_tail it
  | bgTask => exact absurd rfl h

theorem Subject.exists_tail_runState (wfID : WFID) (runID : RunID) :
    ∃ tail, ((Subject.runState wfID runID).render it).toList =
      "grctl_state".toList ++ '.' :: ("run_state".toList ++ '.' :: tail) :=
  fits_runState.exists_tail_two it

/-- The families under `grctl_run` end with a fixed token. -/
theorem Subject.exists_init_runInfo (wfType : WFType) (wfID : WFID) (runID : RunID) :
    ∃ init, ((Subject.runInfo wfType wfID runID).render it).toList = init ++ '.' :: "info".toList :=
  fits_runInfo.exists_init_lit it (.lit _) [.hole _, .hole _, .hole _]

@[inherit_doc Subject.exists_init_runInfo]
theorem Subject.exists_init_runInput (wfID : WFID) (runID : RunID) :
    ∃ init, ((Subject.runInput wfID runID).render it).toList = init ++ '.' :: "input".toList :=
  (fits_runStore (by decide)).exists_init_lit it (.lit _) [.hole _, .hole _]

@[inherit_doc Subject.exists_init_runInfo]
theorem Subject.exists_init_runOutput (wfID : WFID) (runID : RunID) :
    ∃ init, ((Subject.runOutput wfID runID).render it).toList = init ++ '.' :: "output".toList :=
  (fits_runStore (by decide)).exists_init_lit it (.lit _) [.hole _, .hole _]

@[inherit_doc Subject.exists_init_runInfo]
theorem Subject.exists_init_runError (wfID : WFID) (runID : RunID) :
    ∃ init, ((Subject.runError wfID runID).render it).toList = init ++ '.' :: "error".toList :=
  (fits_runStore (by decide)).exists_init_lit it (.lit _) [.hole _, .hole _]

/-- The last token of the subject of a key-value pair. -/
def kvToken (wfID : WFID) (runID : RunID) (key : String) : String :=
  substituteParams it "\x7bkey\x7d" [("wf_id", wfID), ("run_id", runID), ("key", key)]

/-- Without braces it is the key. -/
theorem kvToken_eq {wfID : WFID} {runID : RunID} {key : String} (hkey : BraceFree key) :
    kvToken it wfID runID key = key := by
  have hnames : ((charParams (it.order [("wf_id", wfID), ("run_id", runID), ("key", key)])).map
      Prod.fst).Nodup :=
    ((charParams_order_perm it).map Prod.fst).nodup_iff.2 (by simp)
  have hmem : ("key".toList, key.toList) ∈
      charParams (it.order [("wf_id", wfID), ("run_id", runID), ("key", key)]) :=
    (charParams_order_perm it).mem_iff.2 (by simp)
  have hfill : substitute '{' '}' _ (placeholder '{' '}' "key".toList) = key.toList :=
    substitute_placeholder_eq (by decide) (by decide) (by decide) hnames hmem hkey.1
  exact String.toList_inj.1 (String.toList_ofList.trans hfill)

theorem exists_init_kv (wfID : WFID) (runID : RunID) (key : String) :
    ∃ init, ((Subject.kv wfID runID key).render it).toList =
      init ++ '.' :: (kvToken it wfID runID key).toList := by
  have h : ∃ init, (Manifest.wfKVKey it wfID runID key).toList = init ++ '.' ::
      substitute '{' '}' (charParams (it.order [("wf_id", wfID), ("run_id", runID), ("key", key)]))
        (Piece.text '{' '}' (.hole "key".toList)) :=
    fits_kv.exists_init it (.lit _) [.hole _, .hole _]
  rw [kvToken, substituteParams, String.toList_ofList]
  exact h

theorem dot_not_mem_kvToken {wfID : WFID} {runID : RunID} {key : String} (hwf : IsToken wfID)
    (hrun : IsToken runID) (hkey : IsToken key) : '.' ∉ (kvToken it wfID runID key).toList := by
  rw [kvToken, substituteParams, String.toList_ofList]
  refine not_mem_substitute (fun param hparam => ?_) (by decide)
  have hvalues : ∀ param ∈ charParams [("wf_id", wfID), ("run_id", runID), ("key", key)],
      '.' ∉ param.2 := by
    simp [hwf.dot, hrun.dot, hkey.dot]
  exact hvalues param ((charParams_order_perm it).mem_iff.1 hparam)

theorem render_bgTask : Subject.render it .bgTask = "grctl_bg_task" :=
  rfl

/-- The subject of a run state is that of no other family. -/
theorem Subject.render_ne_runState {wfID : WFID} {runID : RunID}
    (h : ∀ wfID runID, s ≠ .runState wfID runID) :
    s.render it ≠ (Subject.runState wfID runID).render it' := by
  intro heq
  have heq := congrArg String.toList heq
  obtain ⟨tail', htail'⟩ := Subject.exists_tail it' (s := .runState wfID runID) (by simp)
  by_cases hbg : s = .bgTask
  · have hdot : '.' ∉ (s.render it).toList := by
      rw [hbg, render_bgTask]
      simp
    rw [heq, htail'] at hdot
    simp at hdot
  · obtain ⟨tail, htail⟩ := Subject.exists_tail it hbg
    rw [htail, htail', first_sep_inj s.dot_not_mem_head (Subject.dot_not_mem_head _)] at heq
    have hhead := String.toList_inj.1 heq.1
    cases s <;> simp [head] at hhead
    exact h _ _ rfl

end Subjects

end Grctl
