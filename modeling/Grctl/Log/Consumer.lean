import Grctl.Log.SubjectLog

/-!
# Consumers with acknowledgements

A durable consumer hands the messages of a queue to handlers. A message is handed out again as long
as none of its deliveries has been acknowledged, so that it may be delivered any number of times,
and to several handlers at once. A handler that works in several steps is a job with a stage.

What a handler has done by the time it acknowledges its message is a property `Q` of the message,
and how far it has come is a property `P` of the message and the stage. `Consumer.Sound` says that
the jobs and the acknowledged messages have these properties; it is kept by every operation of the
consumer that keeps `P` and acknowledges a message only with `Q`.

Handlers that clean up remove what lies on some subjects of a log. A removal reaches what was stored
before it: `Log.Swept` says that nothing is left there up to a sequence number.

## Main definitions

* `Job`, `Consumer`, `Consumer.deliver`, `Consumer.move`, `Consumer.settle`, `Consumer.drop`,
  `Consumer.stop`.
* `Consumer.Sound P Q`.
* `Log.Swept`, `Log.remove`.

## Main results

* `Consumer.Sound.deliver`, `Consumer.Sound.move`, `Consumer.Sound.settle`: the rule.
* `Log.Swept.mono`: what has been swept stays so while the log grows.
* `Log.seen_of_commit_duplicate`: why a batch is refused as a duplicate.
-/

namespace Redelivery

variable {ι κ : Type}

/-- A delivery under way. -/
structure Job (ι κ : Type) where
  item : ι
  stage : κ
  deriving DecidableEq, Repr

/-- A consumer: all deliveries so far, those under way, and the acknowledged messages. -/
structure Consumer (ι κ : Type) where
  delivered : List ι := []
  jobs : List (Job ι κ) := []
  acked : List ι := []
  deriving DecidableEq, Repr

namespace Consumer

/-- How often a message has been delivered. -/
def count [DecidableEq ι] (c : Consumer ι κ) (i : ι) : ℕ := c.delivered.count i

/-- A message is handed to a handler. -/
def deliver (c : Consumer ι κ) (i : ι) (stage : κ) : Consumer ι κ :=
  { c with delivered := c.delivered ++ [i], jobs := c.jobs ++ [⟨i, stage⟩] }

/-- A handler goes on. -/
def move (c : Consumer ι κ) (k : ℕ) (j : Job ι κ) (stage : κ) : Consumer ι κ :=
  { c with jobs := c.jobs.set k { j with stage := stage } }

/-- A handler answers, with an acknowledgement or without one. -/
def settle (c : Consumer ι κ) (k : ℕ) (j : Job ι κ) (ack : Bool) : Consumer ι κ :=
  { c with
    jobs := c.jobs.eraseIdx k
    acked := if ack then j.item :: c.acked else c.acked }

/-- A handler ends without an answer. -/
def drop (c : Consumer ι κ) (k : ℕ) : Consumer ι κ := { c with jobs := c.jobs.eraseIdx k }

/-- All handlers end without an answer. -/
def stop (c : Consumer ι κ) : Consumer ι κ := { c with jobs := [] }

theorem count_deliver [DecidableEq ι] (c : Consumer ι κ) (i : ι) (stage : κ) :
    (c.deliver i stage).count i = c.count i + 1 := by
  rw [count, deliver, List.count_append, List.count_singleton_self]
  rfl

/-- Every job satisfies `P`, and every acknowledged message `Q`. -/
structure Sound (P : ι → κ → Prop) (Q : ι → Prop) (c : Consumer ι κ) : Prop where
  jobs : ∀ j ∈ c.jobs, P j.item j.stage
  acked : ∀ i ∈ c.acked, Q i

namespace Sound

variable {P P' : ι → κ → Prop} {Q Q' : ι → Prop} {c : Consumer ι κ} {k : ℕ} {j : Job ι κ}
  {stage : κ}

theorem empty : Sound P Q {} where
  jobs := by simp
  acked := by simp

theorem mono (h : Sound P Q c) (hP : ∀ j ∈ c.jobs, P j.item j.stage → P' j.item j.stage)
    (hQ : ∀ i, Q i → Q' i) : Sound P' Q' c where
  jobs j hj := hP j hj (h.jobs j hj)
  acked i hi := hQ _ (h.acked i hi)

theorem deliver {i : ι} (h : Sound P Q c) (hi : P i stage) : Sound P Q (c.deliver i stage) where
  jobs j hj := by
    rcases List.mem_append.mp hj with hj | hj
    · exact h.jobs j hj
    · rw [List.mem_singleton.mp hj]
      exact hi
  acked := h.acked

theorem move (h : Sound P Q c) (hj : P j.item stage) : Sound P Q (c.move k j stage) where
  jobs j' hj' := by
    rcases List.mem_or_eq_of_mem_set hj' with hj' | rfl
    · exact h.jobs j' hj'
    · exact hj
  acked := h.acked

theorem settle {ack : Bool} (h : Sound P Q c) (hj : ack = true → Q j.item) :
    Sound P Q (c.settle k j ack) where
  jobs j' hj' := h.jobs j' (List.mem_of_mem_eraseIdx hj')
  acked i hi := by
    change i ∈ (if ack then j.item :: c.acked else c.acked) at hi
    split_ifs at hi with hack
    · rcases List.mem_cons.mp hi with rfl | hi
      · exact hj hack
      · exact h.acked i hi
    · exact h.acked i hi

theorem drop (h : Sound P Q c) : Sound P Q (c.drop k) where
  jobs j' hj' := h.jobs j' (List.mem_of_mem_eraseIdx hj')
  acked := h.acked

/-- No handler is left, so that only the acknowledged messages matter. -/
theorem stop (h : Sound P Q c) (hQ : ∀ i, Q i → Q' i) : Sound P' Q' c.stop where
  jobs := by simp [Consumer.stop]
  acked i hi := hQ i (h.acked i hi)

end Sound

end Consumer

end Redelivery

namespace SubjectLog.Log

variable {σ ι δ : Type} {l l' : Log σ ι δ} {p q : σ → Bool} {n : ℕ}

/-- Nothing up to the number `n` is left on the subjects that satisfy `p`. -/
def Swept (l : Log σ ι δ) (p : σ → Bool) (n : ℕ) : Prop :=
  ∀ e ∈ l.entries, e.live = true → p e.subject = true → n < e.seq

theorem swept_purge (l : Log σ ι δ) (p : σ → Bool) (n : ℕ) : (l.purge p).Swept p n := by
  intro e' he' hlive hp
  obtain ⟨e, -, rfl⟩ := mem_purge.mp he'
  split_ifs at hlive hp with h
  · exact absurd hp h

theorem Extends.length_le (h : l.Extends l') : l.length ≤ l'.length := by
  rcases Nat.eq_zero_or_pos l.length with hzero | hpos
  · exact hzero ▸ Nat.zero_le _
  · have hlast : l.length ∈ l.entries.map Entry.seq := by
      rw [l.map_seq, List.mem_range'_1]
      exact ⟨hpos, by rw [length, Nat.add_comm]; exact Nat.lt_succ_self _⟩
    obtain ⟨e, he, hseq⟩ := List.mem_map.mp hlast
    obtain ⟨e', he', -, hseq'⟩ := h.kept e he
    rw [← hseq, ← hseq']
    exact (seq_mem_range he').2

theorem Extends.trans {l'' : Log σ ι δ} (h : l.Extends l') (h' : l'.Extends l'') :
    l.Extends l'' where
  kept e he := by
    obtain ⟨e', he', hm, hseq⟩ := h.kept e he
    obtain ⟨e'', he'', hm', hseq'⟩ := h'.kept e' he'
    exact ⟨e'', he'', hm'.trans hm, hseq'.trans hseq⟩
  back e'' he'' := by
    rcases h'.back e'' he'' with hnew | ⟨e', he', hm', hseq', hlive'⟩
    · exact .inl (h.length_le.trans_lt hnew)
    · rcases h.back e' he' with hnew | ⟨e, he, hm, hseq, hlive⟩
      · exact .inl (hseq' ▸ hnew)
      · exact .inr ⟨e, he, hm.trans hm', hseq.trans hseq', hlive ∘ hlive'⟩

theorem Extends.seen [DecidableEq ι] (h : l.Extends l') {id : ι} (hid : l.seen id = true) :
    l'.seen id = true := by
  obtain ⟨e, he, hmsg⟩ := List.any_eq_true.mp hid
  exact seen_of_mem_messages (h.messages_subset (List.mem_map_of_mem he)) (beq_iff_eq.mp hmsg)

section Duplicates

variable [DecidableEq σ] [DecidableEq ι] {dup : Log σ ι δ → ι → Bool}

omit [DecidableEq ι] in
theorem dup_of_offer_duplicate {m : Message σ ι δ} (h : l.offer dup m = .error .duplicate) :
    ∃ id, m.msgId = some id ∧ dup l id = true := by
  rw [offer] at h
  split_ifs at h with hany
  · cases hid : m.msgId with
    | none => simp [hid] at hany
    | some id => exact ⟨id, rfl, by simpa [hid] using hany⟩
  · cases h

/-- A batch that is refused as a duplicate has an identifier that has been seen before. -/
theorem seen_of_commit_duplicate (hdup : ∀ l id, dup l id = true → l.seen id = true)
    {ms : List (Message σ ι δ)} (hnodup : (ms.filterMap Message.msgId).Nodup)
    (h : l.commit dup ms = .error .duplicate) :
    ∃ id ∈ ms.filterMap Message.msgId, l.seen id = true := by
  induction ms generalizing l with
  | nil => cases h
  | cons m ms ih =>
    rw [commit, List.foldlM_cons] at h
    cases hoffer : l.offer dup m with
    | error r =>
      rw [hoffer] at h
      cases h
      obtain ⟨id, hid, hd⟩ := dup_of_offer_duplicate hoffer
      exact ⟨id, List.mem_filterMap.mpr ⟨m, List.mem_cons_self, hid⟩, hdup l id hd⟩
    | ok l₁ =>
      obtain ⟨-, -, rfl⟩ := offer_eq_ok.mp hoffer
      rw [hoffer] at h
      have htail := (List.sublist_cons_self m ms).filterMap Message.msgId
      obtain ⟨id, hmem, hseen⟩ := ih (hnodup.sublist htail) h
      refine ⟨id, htail.subset hmem, ?_⟩
      rw [append, seen_appendAll, Bool.or_eq_true, decide_eq_true_eq] at hseen
      refine hseen.resolve_right fun hnew => ?_
      -- the identifier would occur twice in the batch
      obtain ⟨m', hm', hid⟩ := List.mem_filterMap.mp hnew
      cases List.mem_singleton.mp hm'
      rw [List.filterMap_cons_some hid, List.nodup_cons] at hnodup
      exact hnodup.1 hmem

end Duplicates

theorem Swept.mono (h : l.Swept p n) (hl : l.Extends l') (hn : n ≤ l.length) : l'.Swept p n := by
  intro e' he' hlive hp
  rcases hl.back e' he' with hnew | ⟨e, he, hm, hseq, hlive'⟩
  · exact hn.trans_lt hnew
  · rw [← hseq]
    refine h e he (hlive' hlive) ?_
    rwa [hm]

/-- Remove the message with the number `n`. -/
def remove (l : Log σ ι δ) (n : ℕ) : Log σ ι δ where
  entries := l.entries.map fun e => if e.seq = n then { e with live := false } else e
  map_seq := by
    rw [List.map_map, List.length_map, ← l.map_seq]
    refine List.map_congr_left fun e _ => ?_
    simp only [Function.comp_apply]
    split_ifs <;> rfl

end SubjectLog.Log
