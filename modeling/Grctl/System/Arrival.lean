import Grctl.System.Progress

/-!
# The order of arrival

Events for a run are published to the stream as directives, and the call that handles one stores
it in the inbox. Nothing ties the batch of an event to the one before it: the queue hands every
message to a call of its own, and the calls commit in any order, so that the inbox need not keep the
order of arrival.

It does when the queue holds back an event until the earlier ones have been acknowledged and no
call handles them any more.

## Main definitions

* `Directive.EventOf`, `Directive.inboxMessage`: an event for a run, and what is stored of it.
* `World.Settled`: a message has been acknowledged, and no call handles it.
* `ArrivalGuard`: events are published under new identifiers and delivered one after the other.

## Main results

* `inbox_keeps_arrival_order`: the inbox keeps the order in which events were published.
-/

namespace Grctl

open SubjectLog Lts

/-- An event for the run `run` of `wf`. -/
def Directive.EventOf (wf : WFID) (run : RunID) (d : Directive) : Prop :=
  d.kind = .event ∧ d.OfRun wf run

instance (wf : WFID) (run : RunID) (d : Directive) : Decidable (d.EventOf wf run) :=
  inferInstanceAs (Decidable (_ ∧ _))

/-- An event as it is stored in the inbox. -/
def Directive.inboxMessage (d : Directive) : Msg where
  subject := .inbox d.runInfo.wfID
  data := .directive d

/-- The message is a published event for the run. -/
def isEventOf (wf : WFID) (run : RunID) (m : Msg) : Bool :=
  match m.subject, m.data with
  | .directive .., .directive d => decide (d.EventOf wf run)
  | _, _ => false

/-- The message at `n` has been acknowledged, and no call handles it. -/
def World.Settled (w : World) (n : ℕ) : Prop := n ∈ w.acked ∧ ∀ c ∈ w.calls, c.seq ≠ n

instance (w : World) (n : ℕ) : Decidable (w.Settled n) := inferInstanceAs (Decidable (_ ∧ _))

/-- Events for the run are published under new identifiers, and each is delivered when the earlier
ones are settled. -/
def ArrivalGuard (wf : WFID) (run : RunID) (w : World) (a : Label) : Prop :=
  (∀ d ∈ a.published?, d.EventOf wf run → ∀ e ∈ w.stream.entries, e.msgId ≠ some d.id) ∧
  ∀ seq ∈ a.delivered?, ∀ e' ∈ w.entryAt seq, isEventOf wf run e'.toMessage = true →
    ∀ e ∈ w.stream.entries, isEventOf wf run e.toMessage = true → e.seq < seq → w.Settled e.seq
  deriving Decidable

/-- Every event for the run that was published before the message at `n` is settled. -/
def EarlierSettled (wf : WFID) (run : RunID) (w : World) (n : ℕ) : Prop :=
  ∀ (d : Directive) (n' : ℕ), d.EventOf wf run → w.stream.Placed n' d.message → n' < n →
    w.Settled n'

/-- The invariant: an event is published once, an event in the inbox has been published, what was
published before an event that is handled or stored is settled, and the inbox is in order. -/
structure Ordered (wf : WFID) (run : RunID) (w : World) : Prop where
  unique : ∀ (d : Directive) (n n' : ℕ), d.EventOf wf run → w.stream.Placed n d.message →
    w.stream.Placed n' d.message → n = n'
  source : ∀ (d : Directive) (i : ℕ), d.EventOf wf run → w.stream.Placed i d.inboxMessage →
    ∃ n, w.stream.Placed n d.message
  calls : ∀ c ∈ w.calls, c.directive.EventOf wf run → EarlierSettled wf run w c.seq
  stored : ∀ (d : Directive) (i n : ℕ), d.EventOf wf run → w.stream.Placed i d.inboxMessage →
    w.stream.Placed n d.message → EarlierSettled wf run w n
  order : ∀ (d₁ d₂ : Directive) (n₁ n₂ i₁ i₂ : ℕ), d₁.EventOf wf run → d₂.EventOf wf run →
    w.stream.Placed n₁ d₁.message → w.stream.Placed n₂ d₂.message → n₁ < n₂ →
      w.stream.Placed i₁ d₁.inboxMessage → w.stream.Placed i₂ d₂.inboxMessage → i₁ < i₂

section Step

variable {cfg : Manager.Config} {w w' : World} {a : Label} {wf : WFID} {run : RunID}
  {d : Directive} {n : ℕ}

/-- A message that is stored after a step was there before, or the step has stored it. -/
theorem placed_of_step (hstep : step cfg w a = some w') {m : Msg} (h : w'.stream.Placed n m) :
    w.stream.Placed n m ∨ Origin cfg w w'.journal a m ∧ w.stream.length < n := by
  obtain ⟨e, he, rfl, rfl⟩ := h
  cases (effect_of_step hstep).entryChange he with
  | old he₀ hm hseq => exact .inl ⟨_, he₀, hm, hseq⟩
  | new ho _ hseq => exact .inr ⟨ho, hseq⟩

/-- A new event comes from outside. -/
theorem placed_message (hw : Sound w) (hstep : step cfg w a = some w') (hd : d.EventOf wf run)
    (h : w'.stream.Placed n d.message) :
    w.stream.Placed n d.message ∨ a = .publish d ∧ w.stream.length < n := by
  refine (placed_of_step hstep h).imp_right fun ⟨ho, hn⟩ => ⟨?_, hn⟩
  generalize hm : d.message = m at ho
  cases ho with
  | publish =>
    cases congrArg Message.data hm
    rfl
  | runInfo => cases congrArg Message.data hm
  | history => cases congrArg Message.data hm
  | batch _ hb hr hmem =>
    -- the directives of a batch are wake-ups
    obtain ⟨d', rfl, hd'⟩ := Record.eq_of_mem_messages_directive hmem (by rw [← hm]; rfl)
    obtain ⟨_, -, hwake⟩ := (hw.planned hb).directive_cases hr
    cases congrArg Message.data (hm.trans hd')
    exact absurd (hd.1.symm.trans hwake.kind) (by decide)

/-- A new event in the inbox is stored by the call that handles it. -/
theorem placed_inboxMessage (hw : Sound w) (hstep : step cfg w a = some w')
    (h : w'.stream.Placed n d.inboxMessage) :
    w.stream.Placed n d.inboxMessage ∨ w.stream.length < n ∧
      ∃ k ∈ a.finished?, ∃ c, w.calls[k]? = some c ∧ c.directive = d := by
  refine (placed_of_step hstep h).imp_right fun ⟨ho, hn⟩ => ⟨hn, ?_⟩
  generalize hm : d.inboxMessage = m at ho
  cases ho with
  | publish => cases congrArg Message.subject hm
  | runInfo => cases congrArg Message.subject hm
  | history => cases congrArg Message.subject hm
  | @batch k c _ _ _ _ _ _ _ _ hc hb hr hmem =>
    refine ⟨k, rfl, c, hc, ?_⟩
    obtain ⟨-, -, hdata⟩ := hb.inbox_message hw (List.mem_flatMap.mpr ⟨_, hr, hmem⟩)
      (congrArg Message.subject hm).symm
    rw [← hm] at hdata
    exact (Data.directive.inj hdata).symm

theorem entryAt_of_deliver {seq : ℕ} (hstep : step cfg w (.deliver seq) = some w') :
    seq ∉ w.acked ∧ ∃ e, w.entryAt seq = some e := by
  simp only [step] at hstep
  split at hstep
  · rename_i he
    split_ifs at hstep with hack
    exact ⟨hack, _, he⟩
  · cases hstep

theorem acked_subset_of_step (hstep : step cfg w a = some w') : w.acked ⊆ w'.acked := by
  have heffect := effect_of_step hstep
  cases heffect with
  | @commit _ c _ _ _ ack _ _ _ _ =>
    cases ack
    · exact List.Subset.refl _
    · exact List.subset_cons_self c.seq w.acked
  | reject _ _ hacked =>
    rcases hacked with rfl | ⟨rfl, -⟩
    · exact List.Subset.refl _
    · exact List.subset_cons_self ..
  | _ => exact List.Subset.refl _

/-- A settled message stays settled. -/
theorem World.Settled.step (h : w.Settled n) (hstep : step cfg w a = some w') : w'.Settled n := by
  refine ⟨acked_subset_of_step hstep h.1, fun c hc => ?_⟩
  rcases ((effect_of_step hstep).callChange hc).origin with
    ⟨c₀, hc₀, hseq, -⟩ | ⟨e, -, rfl, hseq, -⟩
  · exact hseq ▸ h.2 c₀ hc₀
  · rintro rfl
    exact (entryAt_of_deliver hstep).1 (hseq ▸ h.1)

theorem EarlierSettled.step (h : EarlierSettled wf run w n) (hw : Sound w)
    (hn : n ≤ w.stream.length) (hstep : step cfg w a = some w') : EarlierSettled wf run w' n := by
  intro d n' hd hplaced hlt
  rcases placed_message hw hstep hd hplaced with hplaced | ⟨-, hnew⟩
  · exact (h d n' hd hplaced hlt).step hstep
  · omega

theorem length_le_of_publish (hstep : step cfg w (.publish d) = some w') :
    w'.stream.length ≤ w.stream.length + 1 := by
  simp only [step] at hstep
  split_ifs at hstep
  cases hstep
  rcases publishDirective_eq cfg.dup w.stream d with h | h <;> simp [h, Log.append]

/-- An event that is published under a new identifier has not been published before. -/
theorem ArrivalGuard.fresh (hok : ArrivalGuard wf run w (.publish d)) (hd : d.EventOf wf run) :
    ¬ w.stream.Placed n d.message := by
  rintro ⟨e, he, hm, -⟩
  refine hok.1 d rfl hd e he ?_
  rw [hm]
  rfl

/-- An event in the inbox was published before. -/
theorem Ordered.placed_old (h : Ordered wf run w) (hw : Sound w) (hok : ArrivalGuard wf run w a)
    (hstep : step cfg w a = some w') (hd : d.EventOf wf run) {i : ℕ}
    (hi : w'.stream.Placed i d.inboxMessage) (hn : w'.stream.Placed n d.message) :
    w.stream.Placed n d.message := by
  refine (placed_message hw hstep hd hn).resolve_right ?_
  rintro ⟨rfl, -⟩
  rcases placed_inboxMessage hw hstep hi with hi | ⟨-, _, hk, -⟩
  · obtain ⟨n₀, hn₀⟩ := h.source d i hd hi
    exact hok.fresh hd hn₀
  · cases hk

/-- The call that handles an event is the one on its message. -/
theorem Ordered.seq_eq (h : Ordered wf run w) (hw : Sound w) {k : ℕ} {c : Call}
    (hc : w.calls[k]? = some c) (hd : c.directive.EventOf wf run)
    (hn : w.stream.Placed n c.directive.message) : c.seq = n :=
  h.unique c.directive c.seq n hd (hw.calls c (List.mem_of_getElem? hc)).entry hn

theorem Ordered.step_unique (h : Ordered wf run w) (hw : Sound w) (hok : ArrivalGuard wf run w a)
    (hstep : step cfg w a = some w') (hd : d.EventOf wf run) {n' : ℕ}
    (hn : w'.stream.Placed n d.message) (hn' : w'.stream.Placed n' d.message) : n = n' := by
  rcases placed_message hw hstep hd hn with hold | ⟨rfl, hnew⟩
  · rcases placed_message hw hstep hd hn' with hold' | ⟨rfl, -⟩
    · exact h.unique d n n' hd hold hold'
    · exact absurd hold (hok.fresh hd)
  · rcases placed_message hw hstep hd hn' with hold' | ⟨-, hnew'⟩
    · exact absurd hold' (hok.fresh hd)
    · have := length_le_of_publish hstep
      have := hn.le_length
      have := hn'.le_length
      omega

theorem Ordered.step_calls (h : Ordered wf run w) (hw : Sound w) (hok : ArrivalGuard wf run w a)
    (hstep : step cfg w a = some w') {c : Call} (hc : c ∈ w'.calls)
    (hd : c.directive.EventOf wf run) : EarlierSettled wf run w' c.seq := by
  have hsettled : EarlierSettled wf run w c.seq ∧ c.seq ≤ w.stream.length := by
    rcases ((effect_of_step hstep).callChange hc).origin with
      ⟨c₀, hc₀, hseq, hdir⟩ | ⟨e, he, rfl, hseq, ⟨ty, wf', run', hsubject⟩, hdata⟩
    · rw [← hseq]
      exact ⟨h.calls c₀ hc₀ (hdir ▸ hd), Log.Placed.le_length (hw.calls c₀ hc₀).entry⟩
    · rw [hseq]
      refine ⟨fun d n' hd' hplaced hlt => ?_, (Log.seq_mem_range he).2⟩
      obtain ⟨-, e₁, hat⟩ := entryAt_of_deliver hstep
      obtain ⟨he₁, -, hseq₁⟩ := mem_of_entryAt hat
      obtain rfl := Log.eq_of_seq_eq he₁ he hseq₁
      obtain ⟨e₂, he₂, hm, rfl⟩ := hplaced
      refine hok.2 _ rfl e₁ hat ?_ e₂ he₂ ?_ hlt
      · simp [isEventOf, hsubject, hdata, hd]
      · rw [hm]
        exact decide_eq_true hd'
  exact hsettled.1.step hw hsettled.2 hstep

theorem Ordered.step_stored (h : Ordered wf run w) (hw : Sound w) (hok : ArrivalGuard wf run w a)
    (hstep : step cfg w a = some w') (hd : d.EventOf wf run) {i : ℕ}
    (hi : w'.stream.Placed i d.inboxMessage) (hn : w'.stream.Placed n d.message) :
    EarlierSettled wf run w' n := by
  have hold := h.placed_old hw hok hstep hd hi hn
  refine EarlierSettled.step ?_ hw hold.le_length hstep
  rcases placed_inboxMessage hw hstep hi with hi | ⟨-, k, -, c, hc, rfl⟩
  · exact h.stored d i n hd hi hold
  · rw [← h.seq_eq hw hc hd hold]
    exact h.calls c (List.mem_of_getElem? hc) hd

theorem Ordered.step_order (h : Ordered wf run w) (hw : Sound w) (hok : ArrivalGuard wf run w a)
    (hstep : step cfg w a = some w') {d₁ d₂ : Directive} {n₁ n₂ i₁ i₂ : ℕ}
    (hd₁ : d₁.EventOf wf run) (hd₂ : d₂.EventOf wf run) (hn₁ : w'.stream.Placed n₁ d₁.message)
    (hn₂ : w'.stream.Placed n₂ d₂.message) (hlt : n₁ < n₂)
    (hi₁ : w'.stream.Placed i₁ d₁.inboxMessage) (hi₂ : w'.stream.Placed i₂ d₂.inboxMessage) :
    i₁ < i₂ := by
  have hold₁ := h.placed_old hw hok hstep hd₁ hi₁ hn₁
  have hold₂ := h.placed_old hw hok hstep hd₂ hi₂ hn₂
  rcases placed_inboxMessage hw hstep hi₁ with hi₁ | ⟨hnew₁, k₁, hk₁, c₁, hc₁, rfl⟩
  · rcases placed_inboxMessage hw hstep hi₂ with hi₂ | ⟨hnew₂, -⟩
    · exact h.order d₁ d₂ n₁ n₂ i₁ i₂ hd₁ hd₂ hold₁ hold₂ hlt hi₁ hi₂
    · have := hi₁.le_length
      omega
  · have hseq₁ := h.seq_eq hw hc₁ hd₁ hold₁
    rcases placed_inboxMessage hw hstep hi₂ with hi₂ | ⟨-, k₂, hk₂, c₂, hc₂, rfl⟩
    · -- the later event is in the inbox, so nothing handles the earlier one any more
      have hsettled := h.stored d₂ i₂ n₂ hd₂ hi₂ hold₂ _ n₁ hd₁ hold₁ hlt
      exact absurd hseq₁ (hsettled.2 c₁ (List.mem_of_getElem? hc₁))
    · cases hk₁.symm.trans hk₂
      cases hc₁.symm.trans hc₂
      have hseq₂ := h.seq_eq hw hc₂ hd₂ hold₂
      omega

/-- The step lemma. -/
theorem Ordered.step (h : Ordered wf run w) (hw : Sound w) (hok : ArrivalGuard wf run w a)
    (hstep : step cfg w a = some w') : Ordered wf run w' where
  unique _ _ _ hd hn hn' := h.step_unique hw hok hstep hd hn hn'
  source d i hd hi := by
    have kept {n : ℕ} (hn : w.stream.Placed n d.message) : ∃ n, w'.stream.Placed n d.message := by
      obtain ⟨e, he, hm, -⟩ := hn
      obtain ⟨e', he', hm', -⟩ := (effect_of_step hstep).change.extends.kept e he
      exact ⟨e'.seq, e', he', hm'.trans hm, rfl⟩
    rcases placed_inboxMessage hw hstep hi with hi | ⟨-, k, -, c, hc, rfl⟩
    · obtain ⟨n, hn⟩ := h.source d i hd hi
      exact kept hn
    · exact kept (hw.calls c (List.mem_of_getElem? hc)).entry
  calls _ hc hd := h.step_calls hw hok hstep hc hd
  stored _ _ _ hd hi hn := h.step_stored hw hok hstep hd hi hn
  order _ _ _ _ _ _ hd₁ hd₂ hn₁ hn₂ hlt hi₁ hi₂ :=
    h.step_order hw hok hstep hd₁ hd₂ hn₁ hn₂ hlt hi₁ hi₂

end Step

/-- The inbox preserves arrival order. In any interleaving in which an event for the run is
delivered when the earlier ones have been acknowledged and no call handles them any more: if two
events were published in a given order, they are in the inbox in that order. -/
theorem inbox_keeps_arrival_order {cfg : Manager.Config} {w : World} {wf : WFID} {run : RunID}
    (h : ReachableBy cfg (ArrivalGuard wf run) w) {d₁ d₂ : Directive} {n₁ n₂ i₁ i₂ : ℕ}
    (hd₁ : d₁.EventOf wf run) (hd₂ : d₂.EventOf wf run) (hn₁ : w.stream.Placed n₁ d₁.message)
    (hn₂ : w.stream.Placed n₂ d₂.message) (hlt : n₁ < n₂)
    (hi₁ : w.stream.Placed i₁ d₁.inboxMessage) (hi₂ : w.stream.Placed i₂ d₂.inboxMessage) :
    i₁ < i₂ := by
  have nothing {n : ℕ} {m : Msg} (hm : World.init.stream.Placed n m) : False := by
    obtain ⟨e, he, -⟩ := hm
    cases he
  have hordered : Ordered wf run w := by
    refine Reach.invariant (P := Ordered wf run) h ?_
      fun w a w' hr ih hok hstep => ih.step (sound_of_reachableBy hr) hok hstep
    exact ⟨fun _ _ _ _ hn => (nothing hn).elim, fun _ _ _ hi => (nothing hi).elim,
      (fun c hc => by cases hc), fun _ _ _ _ hi => (nothing hi).elim,
      fun _ _ _ _ _ _ _ _ hn => (nothing hn).elim⟩
  exact hordered.order d₁ d₂ n₁ n₂ i₁ i₂ hd₁ hd₂ hn₁ hn₂ hlt hi₁ hi₂

namespace Sample

/-- Two events are sent to a run. -/
def twoEvents : List Label :=
  .publish start :: handled 1 ++ [.publish (event "pay"), .publish (event "ship")]

/-- They are handled one after the other. -/
def inTurn : World := worldBy (ArrivalGuard "wf" "r1") (twoEvents ++ handled 9 ++ handled 10)

/-- The call that handles the second one commits first. -/
def outOfTurn : World := world (twoEvents ++ handled 10 ++ handled 9)

end Sample

theorem inbox_keeps_arrival_order_inTurn :
    Sample.inTurn.stream.Placed 11 (Sample.event "pay").inboxMessage ∧
    Sample.inTurn.stream.Placed 13 (Sample.event "ship").inboxMessage ∧ 11 < 13 := by
  obtain ⟨hpaid, hshipped, hpay, hship⟩ :
      Sample.inTurn.stream.Placed 9 (Sample.event "pay").message ∧
      Sample.inTurn.stream.Placed 10 (Sample.event "ship").message ∧
      Sample.inTurn.stream.Placed 11 (Sample.event "pay").inboxMessage ∧
      Sample.inTurn.stream.Placed 13 (Sample.event "ship").inboxMessage := by decide +kernel
  have hreach : ReachableBy Sample.config (ArrivalGuard "wf" "r1") Sample.inTurn :=
    Sample.reachableBy_worldBy ..
  exact ⟨hpay, hship, inbox_keeps_arrival_order hreach (by decide) (by decide) hpaid hshipped
    (by decide) hpay hship⟩

/-- The events were published in one order and are in the inbox in the other. -/
theorem inbox_out_of_order :
    Sample.outOfTurn.stream.Placed 9 (Sample.event "pay").message ∧
    Sample.outOfTurn.stream.Placed 10 (Sample.event "ship").message ∧
    Sample.outOfTurn.stream.Placed 13 (Sample.event "pay").inboxMessage ∧
    Sample.outOfTurn.stream.Placed 11 (Sample.event "ship").inboxMessage := by
  decide +kernel

end Grctl
