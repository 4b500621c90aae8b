import Grctl.System.Inbox

/-!
# The identifiers of activities

Every step and every wait of a run goes by the identifier of a directive: its start, a step or wait
that was asked for, the successor of a step result or of a timeout, or an event from the inbox. The
timer that guards the activity is named after it.

This file shows that no identifier is used twice. The identifiers of published directives are new
and are never those of a successor, the batch of each directive commits at most once, and the
cursor of the run makes sure that no event is dispatched a second time.

## Main definitions

* `Creates d sn id`: handling `d` begins an activity with the identifier `id`.
* `CommitsOnce`: no two batches for a workflow have the same directive identifier.
* `ActivityGuard`: what is assumed about published directives.

## Main results

* `Turn.activity_cases`: what a transition does to the activity of the run.
* `Batch.creates_fresh`: an activity that begins has a new identifier.
-/

namespace Grctl

open SubjectLog Lts

/-! ### Identifiers -/

/-- The identifier is one that `deriveNextDirectiveID` has made. -/
def isDerived (id : DirectiveID) : Bool := "next.".toList.isPrefixOf id.toList

theorem isDerived_deriveNextDirectiveID (id : DirectiveID) :
    isDerived (deriveNextDirectiveID id) = true := by
  rw [isDerived, deriveNextDirectiveID, String.toList_append, List.isPrefixOf_iff_prefix]
  exact List.prefix_append _ _

theorem ne_deriveNextDirectiveID {id : DirectiveID} (h : isDerived id = false)
    (id' : DirectiveID) : id ≠ deriveNextDirectiveID id' := by
  rintro rfl
  exact absurd ((isDerived_deriveNextDirectiveID id').symm.trans h) (by decide)

theorem deriveNextDirectiveID_injective : Function.Injective deriveNextDirectiveID := by
  intro a b h
  have h := congrArg String.toList h
  rw [deriveNextDirectiveID, deriveNextDirectiveID, String.toList_append, String.toList_append] at h
  exact String.toList_injective (List.append_cancel_left h)

theorem deriveTimerID_injective (kind : TimerKind) :
    Function.Injective fun id => deriveTimerID id kind := by
  intro a b h
  have h := congrArg String.toList h
  simp only [deriveTimerID, String.toList_append] at h
  exact String.toList_injective (List.append_cancel_left h)

/-- No two batches for `wf` have the same directive identifier. -/
def CommitsOnce (wf : WFID) (journal : List Commit) : Prop :=
  ((journal.filter fun c => c.directive.runInfo.wfID = wf).map (·.directive.id)).Nodup

instance (wf : WFID) (journal : List Commit) : Decidable (CommitsOnce wf journal) :=
  inferInstanceAs (Decidable (List.Nodup _))

section CommitsOnce

variable {wf : WFID} {journal : List Commit} {c c' : Commit}

theorem CommitsOnce.of_concat (h : CommitsOnce wf (journal ++ [c])) : CommitsOnce wf journal := by
  rw [CommitsOnce, List.filter_append, List.map_append] at h
  exact h.of_append_left

theorem CommitsOnce.eq (h : CommitsOnce wf journal) (hc : c ∈ journal) (hc' : c' ∈ journal)
    (hwf : c.directive.runInfo.wfID = wf) (hwf' : c'.directive.runInfo.wfID = wf)
    (hid : c.directive.id = c'.directive.id) : c = c' :=
  List.inj_on_of_nodup_map h (List.mem_filter.mpr ⟨hc, decide_eq_true hwf⟩)
    (List.mem_filter.mpr ⟨hc', decide_eq_true hwf'⟩) hid

theorem CommitsOnce.ne (h : CommitsOnce wf (journal ++ [c])) (hc' : c' ∈ journal)
    (hwf : c.directive.runInfo.wfID = wf) (hwf' : c'.directive.runInfo.wfID = wf) :
    c.directive.id ≠ c'.directive.id := by
  rw [CommitsOnce, List.filter_append, List.map_append, List.nodup_append] at h
  refine fun hid => h.2.2 _ (List.mem_map_of_mem (List.mem_filter.mpr ⟨hc', decide_eq_true hwf'⟩)) _
    ?_ hid.symm
  simp [hwf]

end CommitsOnce

/-- The identifiers of directives that are published for `wf` are not derived ones. -/
def Label.FreshID (wf : WFID) (a : Label) : Prop :=
  ∀ d ∈ a.published?, d.runInfo.wfID = wf → isDerived d.id = false
  deriving Decidable

/-- A workflow with one run, whose step results name a step, a wait or the end of the run next, and
whose directives have new identifiers. -/
def ActivityGuard (wf : WFID) (run : RunID) (_ : World) (a : Label) : Prop :=
  a.ForOneRun wf run ∧ a.NoEventNext wf ∧ a.FreshID wf

instance (wf : WFID) (run : RunID) (w : World) (a : Label) : Decidable (ActivityGuard wf run w a) :=
  inferInstanceAs (Decidable (_ ∧ _ ∧ _))

/-! ### Beginnings -/

/-- Handling `d` begins an activity with this identifier. -/
inductive Creates (d : Directive) (sn : StateSnapshot) : DirectiveID → Prop
  | own (hd : d.kind = .start ∨ d.kind = .step ∨ d.kind = .wait) : Creates d sn d.id
  | next (hd : d.kind = .stepResult ∨ d.kind = .waitTimeout) :
      Creates d sn (deriveNextDirectiveID d.id)
  | event (hd : d.kind = .wakeFromInbox) (hevent : sn.event.IsEvent) : Creates d sn sn.event.id

theorem Creates.ne_empty {d : Directive} {sn : StateSnapshot} {id : DirectiveID}
    (h : Creates d sn id) (hd : d.id ≠ "") : id ≠ "" := by
  cases h with
  | own => exact hd
  | next => exact deriveNextDirectiveID_ne_empty d.id
  | event _ hevent => exact hevent.1

section Turn

variable {d : Directive} {sn : StateSnapshot} {s : RunState} {notes body : List Record}

/-- A transition that does not end the run or leave its activity alone sets a timer. -/
theorem Transition.timer_cases (h : Transition d sn s body) :
    s.isTerminal = true ∨ d.AsksFor .stepPickedUp ∨ d.kind = .cancel ∨
      ∃ t, Record.timer t ∈ body ∧ (t.wfID = d.runInfo.wfID ∨
        d.kind = .wakeFromInbox ∧ sn.event.IsEvent ∧ t.wfID = sn.event.runInfo.wfID) := by
  cases h with
  | finish hf hkind => exact .inl (hf.isTerminal.trans hkind)
  | dispatch hs hsrc =>
    obtain ⟨-, hwf, -⟩ := hs
    refine .inr (.inr (.inr ⟨_, .head _, ?_⟩))
    cases hsrc with
    | step => exact .inl hwf
    | next _ _ _ _ hrun => exact .inl (hwf.trans hrun.wfID)
    | timeout _ _ _ hrun => exact .inl (hwf.trans hrun.wfID)
    | inbox hd _ hevent => exact .inr ⟨hd, hevent, hwf⟩
  | suspend hs _ hrun =>
    obtain ⟨-, -, -, hwf, -⟩ := hs
    exact .inr (.inr (.inr ⟨_, .tail _ (.tail _ (.head _)), .inl (hwf.trans hrun.wfID)⟩))
  | pickUp hd => exact .inr (.inl hd)
  | park hd => exact .inr (.inr (.inl hd))

/-- A transition ends the run, leaves its activity alone, or begins one. -/
theorem Turn.activity_cases (h : Turn d sn s notes body)
    (hnext : d.kind = .stepResult → d.NamesNext) :
    s.isTerminal = true ∨
    (d.kind ≠ .stepResult ∧ s.kind = sn.runState.kind ∧
      s.activeDirectiveID = sn.runState.activeDirectiveID) ∨
    (Creates d sn s.activeDirectiveID ∧ ¬ d.AsksFor .stepPickedUp ∧ d.kind ≠ .cancel) := by
  have notNext {k : DirectiveKind}
      (hk : k ∉ [DirectiveKind.step, .wait, .complete, .fail, .failStep])
      (hd : d.kind = .stepResult) : d.nextKind? ≠ some k := fun h => hk (hnext hd k h)
  cases h.activity with
  | ended hs => exact .inl hs
  | kept hd hkind hid =>
    refine .inr (.inl ⟨fun hresult => ?_, hkind, hid⟩)
    rcases hd with (hd | ⟨-, hd⟩) | hd
    · exact absurd (hresult.symm.trans hd) (by decide)
    · exact notNext (by decide) hresult hd
    · exact absurd (hresult.symm.trans hd) (by decide)
  | asked hd hid =>
    refine .inr (.inr ⟨hid ▸ .own (.inr hd), ?_, ?_⟩)
    · rcases hd with hd | hd <;> simp [Directive.AsksFor, hd]
    · rcases hd with hd | hd <;> simp [hd]
  | next hd hk hkind _ hid =>
    refine .inr (.inr ⟨hid ▸ .next (.inl hd), ?_, by simp [hd]⟩)
    rintro (hd' | ⟨-, hk'⟩)
    · exact absurd (hd.symm.trans hd') (by decide)
    · exact notNext (by decide) hd hk'
  | timeout hd _ _ hid =>
    exact .inr (.inr ⟨hid ▸ .next (.inr hd), by simp [Directive.AsksFor, hd], by simp [hd]⟩)
  | nextTimeout hd hk => exact absurd hk (notNext (by decide) hd)
  | event hd _ hid =>
    rcases h.transition.cursor_cases with ⟨-, hevent, -⟩ | ⟨hne, -⟩
    · exact .inr (.inr ⟨hid ▸ .event hd hevent, by simp [Directive.AsksFor, hd], by simp [hd]⟩)
    · exact absurd hd hne

end Turn

/-! ### Events of the inbox and their batches -/

/-- The identifier of the event that a message stores in the inbox of `wf`. -/
def inboxID? (wf : WFID) (m : Msg) : Option DirectiveID :=
  match m.subject, m.data with
  | .inbox wf', .directive d => if wf' = wf then some d.id else none
  | _, _ => none

/-- The batch of an event for `wf`. -/
def Commit.storesEvent (wf : WFID) (c : Commit) : Bool :=
  decide (c.directive.kind = .event ∧ c.directive.runInfo.wfID = wf)

/-- The message at `n` stores the event `id` in the inbox of `wf`. -/
def InboxAt (wf : WFID) (l : Stream) (n : ℕ) (id : DirectiveID) : Prop :=
  ∃ e ∈ l.entries, e.seq = n ∧ inboxID? wf e.toMessage = some id

theorem InboxAt.mono {wf : WFID} {l l' : Stream} {n : ℕ} {id : DirectiveID}
    (h : InboxAt wf l n id) (hl : l.Extends l') : InboxAt wf l' n id := by
  obtain ⟨e, he, hseq, hid⟩ := h
  obtain ⟨e', he', hm, hseq'⟩ := hl.kept e he
  exact ⟨e', he', hseq'.trans hseq, hm ▸ hid⟩

section Inbox

variable {cfg : Manager.Config} {ok : World → Label → Prop} {w : World} {c : Call}
  {sn : StateSnapshot} {records : List Record} {l : Stream} {wf : WFID} {run : RunID}

/-- A batch stores its own directive in the inbox if it is an event, and nothing otherwise. -/
theorem Planned.inboxIDs {d : Directive} (h : Planned d sn records) (hne : records ≠ [])
    (wf : WFID) :
    (records.flatMap Record.messages).filterMap (inboxID? wf) =
      if d.kind = .event ∧ d.runInfo.wfID = wf then [d.id] else [] := by
  by_cases hkind : d.kind = .event
  · cases h with
    | nothing => exact absurd rfl hne
    | start _ hd => exact absurd (hkind.symm.trans hd) (by decide)
    | event =>
      split_ifs <;> simp_all [Record.messages, inboxID?, Directive.message, Directive.subject]
    | transition _ _ ht => exact absurd hkind ht.kind_ne.2
  · rw [if_neg fun hd => hkind hd.1]
    refine List.filterMap_eq_nil_iff.mpr fun m hm => ?_
    obtain ⟨r, hr, hm⟩ := List.mem_flatMap.mp hm
    by_contra hid
    obtain ⟨wf', hs⟩ : ∃ wf', m.subject = .inbox wf' := by
      cases hs : m.subject <;> simp_all [inboxID?]
    obtain ⟨d', rfl, -⟩ := Record.eq_of_mem_messages_inbox hm hs
    exact hkind (h.inbox_cases hr).1

/-- The inbox holds the events whose batches have committed, in this order. -/
theorem inboxIDs_eq (h : ReachableBy cfg ok w) (wf : WFID) :
    w.stream.messages.filterMap (inboxID? wf) =
      (w.journal.filter (Commit.storesEvent wf)).map (·.directive.id) := by
  refine stored_invariant (P := fun l j => l.messages.filterMap (inboxID? wf) =
    (j.filter (Commit.storesEvent wf)).map (·.directive.id)) h rfl ?_ ?_ ?_
  · intro l j m ih hm
    rw [Log.append, Log.messages_appendAll, List.filterMap_append, ih]
    cases hm <;> simp [inboxID?, Directive.message, Directive.subject, runInfoMessage]
  · intro l j p ih _
    rwa [Log.messages_purge]
  · intro w c sn records l hw ih hb
    rw [Log.messages_appendAll, List.filterMap_append, ih,
      (hw.planned hb).inboxIDs (commit_eq_ok hb.commit).2.1, List.filter_append, List.map_append]
    congr 1
    split_ifs with hd
    · simp [Commit.storesEvent, World.commitOf, hd]
    · simp [Commit.storesEvent, World.commitOf, hd]

/-- What lies in the inbox has been committed. -/
theorem InboxAt.committed (h : ReachableBy cfg ok w) {n : ℕ} {id : DirectiveID}
    (hat : InboxAt wf w.stream n id) :
    ∃ c ∈ w.journal, c.directive.id = id ∧ c.directive.kind = .event ∧
      c.directive.runInfo.wfID = wf := by
  obtain ⟨e, he, -, hid⟩ := hat
  have hmem : id ∈ w.stream.messages.filterMap (inboxID? wf) :=
    List.mem_filterMap.mpr ⟨_, List.mem_map_of_mem he, hid⟩
  rw [inboxIDs_eq h wf] at hmem
  obtain ⟨c, hc, rfl⟩ := List.mem_map.mp hmem
  obtain ⟨hc, hevent⟩ := List.mem_filter.mp hc
  exact ⟨c, hc, rfl, of_decide_eq_true hevent⟩

/-- An event that commits once lies in the inbox once. -/
theorem InboxAt.unique (h : ReachableBy cfg ok w) (honce : CommitsOnce wf w.journal) {n n' : ℕ}
    {id : DirectiveID} (hat : InboxAt wf w.stream n id) (hat' : InboxAt wf w.stream n' id) :
    n = n' := by
  have hnodup : (w.stream.messages.filterMap (inboxID? wf)).Nodup := by
    rw [inboxIDs_eq h wf]
    refine honce.sublist (List.Sublist.map _ ?_)
    exact List.monotone_filter_right _ fun c hc => decide_eq_true (of_decide_eq_true hc).2
  rw [List.Nodup, List.pairwise_filterMap, Log.messages, List.pairwise_map] at hnodup
  obtain ⟨e, he, rfl, hid⟩ := hat
  obtain ⟨e', he', rfl, hid'⟩ := hat'
  by_contra hne
  have hsymm : Std.Symm fun e e' : StreamEntry => ∀ b, inboxID? wf e.toMessage = some b →
      ∀ b', inboxID? wf e'.toMessage = some b' → b ≠ b' :=
    ⟨fun e e' h b hb b' hb' => (h b' hb' b hb).symm⟩
  exact hnodup.forall he he' (fun heq => hne (heq ▸ rfl)) id hid id hid' rfl

end Inbox

/-! ### New identifiers -/

section Fresh

variable {cfg : Manager.Config} {w : World} {c : Call} {sn : StateSnapshot} {records : List Record}
  {l : Stream} {wf : WFID} {run : RunID}

theorem isDerived_of_call (h : ReachableBy cfg (ActivityGuard wf run) w) (hc : c ∈ w.calls)
    (hwf : c.directive.runInfo.wfID = wf) (hkind : c.directive.kind ≠ .wakeFromInbox) :
    isDerived c.directive.id = false :=
  directive_of_published (P := fun d => d.runInfo.wfID = wf → d.kind ≠ .wakeFromInbox →
    isDerived d.id = false) h (fun _ d hok hwf _ => hok.2.2 d rfl hwf)
    (fun _ hd _ _ hne => absurd hd hne) c hc hwf hkind

/-- Only wake-ups have derived identifiers. -/
theorem isDerived_of_mem_journal (h : ReachableBy cfg (ActivityGuard wf run) w) :
    ∀ c ∈ w.journal, c.directive.runInfo.wfID = wf → c.directive.kind ≠ .wakeFromInbox →
      isDerived c.directive.id = false :=
  forall_mem_journal h fun _ _ _ _ _ hr hb => isDerived_of_call hr hb.call

/-- The identifiers of events are not derived. -/
theorem InboxAt.isDerived (h : ReachableBy cfg (ActivityGuard wf run) w) {n : ℕ} {id : DirectiveID}
    (hat : InboxAt wf w.stream n id) : isDerived id = false := by
  obtain ⟨c, hc, rfl, hkind, hwf⟩ := hat.committed h
  exact isDerived_of_mem_journal h c hc hwf (by simp [hkind])

/-- An event that a wake-up dispatches lies after the cursor, which moves to it. -/
theorem Batch.inboxAt (hw : Sound w) (hb : Batch cfg w c sn records l)
    (hrun : c.directive.OfRun wf run) (hkind : c.directive.kind = .wakeFromInbox) :
    (currentState w.stream wf run).lastEventSeqID < (currentState l wf run).lastEventSeqID ∧
      InboxAt wf w.stream (currentState l wf run).lastEventSeqID sn.event.id := by
  cases hb.advance hw wf run with
  | other hrun' => exact absurd hrun hrun'
  | start _ hkind' => exact absurd (hkind.symm.trans hkind') (by decide)
  | event _ hkind' => exact absurd (hkind.symm.trans hkind') (by decide)
  | turn _ _ _ hturn _ hold hnew =>
    rcases hturn.transition.cursor_cases with ⟨-, hevent, hdispatch⟩ | ⟨hne, -⟩
    · obtain ⟨e, he, hs, hread, hlt, -⟩ := hb.firstEvent hw hrun.1 hevent
      have hcursor : (currentState l wf run).lastEventSeqID = e.seq := by
        rw [currentState_eq hnew]
        cases hdispatch
        exact cursorAfter_of_readInboxEntry hevent.2.1 hread
      rw [hcursor, currentState_eq hold]
      refine ⟨hlt, e, he, rfl, ?_⟩
      obtain ⟨d₀, ev, hdata, -, hsn⟩ := readInboxEntry_eq_ok hread
      simp [inboxID?, hs, hdata, hsn]
    · exact absurd hkind hne

/-- What has been dispatched lies in the inbox up to the cursor. -/
theorem inboxAt_of_dispatched (h : ReachableBy cfg (ActivityGuard wf run) w)
    (hstart : w.journal.countP (Commit.starts wf run) ≤ 1) :
    ∀ c ∈ w.journal, c.directive.OfRun wf run → c.directive.kind = .wakeFromInbox →
      ∃ n ≤ (currentState w.stream wf run).lastEventSeqID,
        InboxAt wf w.stream n c.snapshot.event.id := by
  refine Reach.invariant (P := fun w => w.journal.countP (Commit.starts wf run) ≤ 1 →
    ∀ c ∈ w.journal, c.directive.OfRun wf run → c.directive.kind = .wakeFromInbox →
      ∃ n ≤ (currentState w.stream wf run).lastEventSeqID,
        InboxAt wf w.stream n c.snapshot.event.id) h (fun _ c hc => by cases hc)
    (fun w a w' hr ih _ hstep hstart => ?_) hstart
  have hcursor := cursor_le_of_step hr (fun _ _ hok => hok.1) (fun _ _ hok => hok.2.1) hstep hstart
  have hchange := (effect_of_step hstep).change
  have old (hstart : w.journal.countP (Commit.starts wf run) ≤ 1) {c : Commit} (hc : c ∈ w.journal)
      (hrun : c.directive.OfRun wf run) (hkind : c.directive.kind = .wakeFromInbox) :
      ∃ n ≤ (currentState w'.stream wf run).lastEventSeqID,
        InboxAt wf w'.stream n c.snapshot.event.id := by
    obtain ⟨n, hn, hat⟩ := ih hstart c hc hrun hkind
    exact ⟨n, hn.trans hcursor, hat.mono hchange.extends⟩
  generalize w'.stream = l', w'.journal = j' at hchange old hstart
  intro c' hc' hrun hkind
  cases hchange with
  | commit hb =>
    rcases List.mem_append.mp hc' with hc' | hc'
    · exact old (countP_starts_of_concat hstart) hc' hrun hkind
    · cases List.mem_singleton.mp hc'
      obtain ⟨-, hat⟩ := hb.inboxAt (sound_of_reachableBy hr) hrun hkind
      rw [eq_appendAll_of_commit hb.commit] at hat ⊢
      exact ⟨_, le_rfl, hat.mono (Log.extends_appendAll ..)⟩
  | _ => exact old hstart hc' hrun hkind

/-- An activity that begins has a new identifier. -/
theorem Batch.creates_fresh (h : ReachableBy cfg (ActivityGuard wf run) w)
    (hb : Batch cfg w c sn records l) (hrun : c.directive.OfRun wf run)
    (hstart : w.journal.countP (Commit.starts wf run) ≤ 1)
    (honce : CommitsOnce wf (w.journal ++ [w.commitOf c sn records])) {id id' : DirectiveID}
    (hnew : Creates c.directive sn id) {c' : Commit} (hc' : c' ∈ w.journal)
    (hrun' : c'.directive.OfRun wf run) (hold : Creates c'.directive c'.snapshot id') :
    id ≠ id' := by
  have hw := sound_of_reachableBy h
  have fresh {c'' : Commit} (hc'' : c'' ∈ w.journal) (hwf : c''.directive.runInfo.wfID = wf) :
      c.directive.id ≠ c''.directive.id := honce.ne hc'' hrun.1 hwf
  have dispatched (hd : c'.directive.kind = .wakeFromInbox) :
      ∃ n ≤ (currentState w.stream wf run).lastEventSeqID,
        InboxAt wf w.stream n c'.snapshot.event.id :=
    inboxAt_of_dispatched h hstart c' hc' hrun' hd
  have not_wake {d : Directive} (hd : d.kind = .start ∨ d.kind = .step ∨ d.kind = .wait) :
      d.kind ≠ .wakeFromInbox := by
    rcases hd with hd | hd | hd <;> simp [hd]
  cases hnew with
  | own hd =>
    have hderived := isDerived_of_call h hb.call hrun.1 (not_wake hd)
    cases hold with
    | own => exact fresh hc' hrun'.1
    | next => exact ne_deriveNextDirectiveID hderived _
    | event hd' =>
      -- the event that was dispatched has a batch of its own
      obtain ⟨n, -, hat⟩ := dispatched hd'
      obtain ⟨c'', hc'', hid, -, hwf⟩ := hat.committed h
      exact hid ▸ fresh hc'' hwf
  | next =>
    cases hold with
    | own hd' =>
      have hderived := isDerived_of_mem_journal h c' hc' hrun'.1 (not_wake hd')
      exact (ne_deriveNextDirectiveID hderived _).symm
    | next => exact fun heq => fresh hc' hrun'.1 (deriveNextDirectiveID_injective heq)
    | event hd' =>
      obtain ⟨n, -, hat⟩ := dispatched hd'
      exact (ne_deriveNextDirectiveID (hat.isDerived h) _).symm
  | event hd =>
    obtain ⟨hlt, hat⟩ := hb.inboxAt hw hrun hd
    cases hold with
    | own hd' =>
      obtain ⟨c'', hc'', hid, hkind, hwf⟩ := hat.committed h
      intro heq
      obtain rfl := honce.of_concat.eq hc'' hc' hwf hrun'.1 (hid.trans heq)
      rw [hkind] at hd'
      simp at hd'
    | next => exact ne_deriveNextDirectiveID (hat.isDerived h) _
    | event hd' =>
      -- the one lies after the cursor, the other one does not
      obtain ⟨n, hn, hat'⟩ := dispatched hd'
      intro heq
      have := hat.unique h honce.of_concat (heq ▸ hat')
      omega

end Fresh

end Grctl
