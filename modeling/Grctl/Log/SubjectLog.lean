import Mathlib.Data.List.Nodup
import Mathlib.Data.List.Range

/-!
# Append-only logs addressed by subject

A `Log` is a sequence of messages, each stored under a subject and numbered from `1` in the order
of arrival; the numbering is a field of the structure. A message can be removed later, which
leaves its number unused, and only live messages are read.

A message may be offered with a deduplication identifier and with the sequence number its subject
is expected to end at. `offer` refuses a duplicate and a wrong expectation; `commit` offers the
messages of a batch one after the other and keeps all of them or none. Which identifiers count as
seen is a parameter `dup`.

## Main definitions

* `Log`, `Log.append`, `Log.appendAll`, `Log.purge`, `Log.messages`, `Log.Placed`.
* `Log.lastOn`, `Log.lastWhere`, `Log.lastSeq`, `Log.firstFrom`: the reads.
* `Log.offer`, `Log.commit`: conditional publication.

## Main results

* `Log.commit_eq_ok`: a committed batch is appended as it stands.
* `Log.lastSeq_of_commit`: a committed expectation was right.
* `Log.lastOn_appendAll`, `Log.lastOn_appendAll_of_ne`: the last message of a subject.
* `Log.lastOn_eq_of_seq`: a stored message with the last number of its subject is its last message.
-/

namespace SubjectLog

variable {σ ι δ : Type}

/-- A message as it is published. -/
structure Message (σ ι δ : Type) where
  subject : σ
  data : δ
  msgId : Option ι := none
  expectedLast : Option ℕ := none
  deriving DecidableEq

/-- A stored message. -/
structure Entry (σ ι δ : Type) extends Message σ ι δ where
  seq : ℕ
  live : Bool := true

/-- The entries that a list of messages becomes when it is stored after `n` others. -/
def stamp (n : ℕ) : List (Message σ ι δ) → List (Entry σ ι δ)
  | [] => []
  | m :: ms => { m with seq := n + 1 } :: stamp (n + 1) ms

@[simp] theorem length_stamp (n : ℕ) (ms : List (Message σ ι δ)) :
    (stamp n ms).length = ms.length := by
  induction ms generalizing n with
  | nil => rfl
  | cons m ms ih => simp only [stamp, List.length_cons, ih]

@[simp] theorem map_toMessage_stamp (n : ℕ) (ms : List (Message σ ι δ)) :
    (stamp n ms).map Entry.toMessage = ms := by
  induction ms generalizing n with
  | nil => rfl
  | cons m ms ih => simp only [stamp, List.map_cons, ih]

theorem map_seq_stamp (n : ℕ) (ms : List (Message σ ι δ)) :
    (stamp n ms).map Entry.seq = List.range' (n + 1) ms.length := by
  induction ms generalizing n with
  | nil => rfl
  | cons m ms ih => simp only [stamp, List.map_cons, ih, List.length_cons, List.range'_succ]

theorem stamp_append (n : ℕ) (ms ms' : List (Message σ ι δ)) :
    stamp n (ms ++ ms') = stamp n ms ++ stamp (n + ms.length) ms' := by
  induction ms generalizing n with
  | nil => rfl
  | cons m ms ih =>
    simp only [List.cons_append, stamp, ih, List.length_cons]
    rw [Nat.add_right_comm, Nat.add_assoc]

theorem mem_stamp {n : ℕ} {ms : List (Message σ ι δ)} {e : Entry σ ι δ} (he : e ∈ stamp n ms) :
    e.toMessage ∈ ms ∧ e.live = true ∧ n < e.seq := by
  induction ms generalizing n with
  | nil => cases he
  | cons m ms ih =>
    rcases List.mem_cons.mp he with rfl | he
    · exact ⟨List.mem_cons_self, rfl, Nat.lt_succ_self n⟩
    · obtain ⟨hm, hl, hs⟩ := ih he
      exact ⟨List.mem_cons_of_mem m hm, hl, by omega⟩

theorem exists_mem_stamp {n : ℕ} {ms : List (Message σ ι δ)} {m : Message σ ι δ} (hm : m ∈ ms) :
    ∃ e ∈ stamp n ms, e.toMessage = m := by
  have h : m ∈ (stamp n ms).map Entry.toMessage := by rwa [map_toMessage_stamp]
  exact List.mem_map.mp h

/-- A stored sequence of messages, numbered from `1` without gaps. -/
structure Log (σ ι δ : Type) where
  entries : List (Entry σ ι δ)
  map_seq : entries.map Entry.seq = List.range' 1 entries.length

namespace Log

/-- The log that holds nothing. -/
def empty : Log σ ι δ := ⟨[], rfl⟩

/-- The number of messages ever stored. -/
def length (l : Log σ ι δ) : ℕ := l.entries.length

/-- Store a list of messages. -/
def appendAll (l : Log σ ι δ) (ms : List (Message σ ι δ)) : Log σ ι δ where
  entries := l.entries ++ stamp l.length ms
  map_seq := by
    rw [List.map_append, l.map_seq, map_seq_stamp, List.length_append, length_stamp,
      ← List.range'_append_1, Nat.add_comm 1]
    rfl

/-- Store one message. -/
def append (l : Log σ ι δ) (m : Message σ ι δ) : Log σ ι δ := l.appendAll [m]

@[simp] theorem entries_appendAll (l : Log σ ι δ) (ms : List (Message σ ι δ)) :
    (l.appendAll ms).entries = l.entries ++ stamp l.length ms := rfl

@[simp] theorem length_appendAll (l : Log σ ι δ) (ms : List (Message σ ι δ)) :
    (l.appendAll ms).length = l.length + ms.length := by
  simp only [length, entries_appendAll, List.length_append, length_stamp]

theorem ext {l l' : Log σ ι δ} (h : l.entries = l'.entries) : l = l' := by
  cases l; cases l'; cases h; rfl

@[simp] theorem appendAll_nil (l : Log σ ι δ) : l.appendAll [] = l :=
  ext (List.append_nil _)

theorem appendAll_append (l : Log σ ι δ) (ms ms' : List (Message σ ι δ)) :
    l.appendAll (ms ++ ms') = (l.appendAll ms).appendAll ms' := by
  apply ext
  simp only [entries_appendAll, length_appendAll, stamp_append, List.append_assoc]

/-! ### Sequence numbers -/

theorem pairwise_seq (l : Log σ ι δ) : l.entries.Pairwise fun e e' => e.seq < e'.seq := by
  have h : (l.entries.map Entry.seq).Pairwise (· < ·) := by
    rw [l.map_seq]
    exact List.pairwise_lt_range'
  exact List.pairwise_map.mp h

theorem seq_mem_range {l : Log σ ι δ} {e : Entry σ ι δ} (he : e ∈ l.entries) :
    1 ≤ e.seq ∧ e.seq ≤ l.length := by
  have h : e.seq ∈ l.entries.map Entry.seq := List.mem_map_of_mem he
  rw [l.map_seq, List.mem_range'_1] at h
  exact ⟨h.1, Nat.lt_succ_iff.mp (by simpa only [length, Nat.add_comm 1] using h.2)⟩

/-- A sequence number identifies its entry. -/
theorem eq_of_seq_eq {l : Log σ ι δ} {e e' : Entry σ ι δ} (he : e ∈ l.entries)
    (he' : e' ∈ l.entries) (h : e.seq = e'.seq) : e = e' := by
  have hnodup : (l.entries.map Entry.seq).Nodup := by
    rw [l.map_seq]
    exact List.nodup_range'
  exact List.inj_on_of_nodup_map hnodup he he' h

/-! ### Removal -/

/-- Remove the messages whose subject satisfies `p`. -/
def purge (l : Log σ ι δ) (p : σ → Bool) : Log σ ι δ where
  entries := l.entries.map fun e => if p e.subject then { e with live := false } else e
  map_seq := by
    rw [List.map_map, List.length_map, ← l.map_seq]
    refine List.map_congr_left fun e _ => ?_
    simp only [Function.comp_apply]
    split_ifs <;> rfl

@[simp] theorem length_purge (l : Log σ ι δ) (p : σ → Bool) : (l.purge p).length = l.length :=
  List.length_map _

theorem mem_purge {l : Log σ ι δ} {p : σ → Bool} {e' : Entry σ ι δ} :
    e' ∈ (l.purge p).entries ↔
      ∃ e ∈ l.entries, (if p e.subject then { e with live := false } else e) = e' :=
  List.mem_map

/-- All messages in the order of arrival, those that have been removed included. -/
def messages (l : Log σ ι δ) : List (Message σ ι δ) := l.entries.map Entry.toMessage

@[simp] theorem messages_appendAll (l : Log σ ι δ) (ms : List (Message σ ι δ)) :
    (l.appendAll ms).messages = l.messages ++ ms := by
  rw [messages, entries_appendAll, List.map_append, map_toMessage_stamp]
  rfl

@[simp] theorem messages_purge (l : Log σ ι δ) (p : σ → Bool) :
    (l.purge p).messages = l.messages := by
  rw [messages, purge, List.map_map]
  refine List.map_congr_left fun e _ => ?_
  simp only [Function.comp_apply]
  split_ifs <;> rfl

/-! ### Growth -/

/-- A log after further messages and removals: nothing that was stored has changed, and what is
new has higher numbers. -/
structure Extends (l l' : Log σ ι δ) : Prop where
  kept : ∀ e ∈ l.entries, ∃ e' ∈ l'.entries, e'.toMessage = e.toMessage ∧ e'.seq = e.seq
  back : ∀ e' ∈ l'.entries, l.length < e'.seq ∨ ∃ e ∈ l.entries, e.toMessage = e'.toMessage ∧
    e.seq = e'.seq ∧ (e'.live = true → e.live = true)

theorem Extends.refl (l : Log σ ι δ) : l.Extends l :=
  ⟨fun e he => ⟨e, he, rfl, rfl⟩, fun e he => .inr ⟨e, he, rfl, rfl, id⟩⟩

theorem extends_appendAll (l : Log σ ι δ) (ms : List (Message σ ι δ)) :
    l.Extends (l.appendAll ms) := by
  refine ⟨fun e he => ⟨e, List.mem_append_left _ he, rfl, rfl⟩, fun e he => ?_⟩
  rcases List.mem_append.mp he with he | he
  · exact .inr ⟨e, he, rfl, rfl, id⟩
  · exact .inl (mem_stamp he).2.2

theorem extends_purge (l : Log σ ι δ) (p : σ → Bool) : l.Extends (l.purge p) := by
  constructor
  · intro e he
    refine ⟨_, mem_purge.mpr ⟨e, he, rfl⟩, ?_⟩
    split_ifs <;> exact ⟨rfl, rfl⟩
  · intro e' he'
    obtain ⟨e, he, rfl⟩ := mem_purge.mp he'
    refine .inr ⟨e, he, ?_⟩
    split_ifs <;> simp

theorem Extends.messages_subset {l l' : Log σ ι δ} (h : l.Extends l') :
    l.messages ⊆ l'.messages := by
  intro m hm
  obtain ⟨e, he, rfl⟩ := List.mem_map.mp hm
  obtain ⟨e', he', hm', -⟩ := h.kept e he
  exact hm' ▸ List.mem_map_of_mem he'

/-- The message `m` has been stored under the number `n`; it may have been removed. -/
def Placed (l : Log σ ι δ) (n : ℕ) (m : Message σ ι δ) : Prop :=
  ∃ e ∈ l.entries, e.toMessage = m ∧ e.seq = n

instance [DecidableEq σ] [DecidableEq ι] [DecidableEq δ] (l : Log σ ι δ) (n : ℕ)
    (m : Message σ ι δ) : Decidable (l.Placed n m) :=
  inferInstanceAs (Decidable (∃ e ∈ l.entries, _))

theorem Placed.le_length {l : Log σ ι δ} {n : ℕ} {m : Message σ ι δ} (h : l.Placed n m) :
    n ≤ l.length := by
  obtain ⟨e, he, -, rfl⟩ := h
  exact (seq_mem_range he).2

/-! ### Reads -/

variable [DecidableEq σ]

/-- An entry that a read of a subject sees. -/
def Entry.isOn (s : σ) (e : Entry σ ι δ) : Bool := e.live && decide (e.subject = s)

/-- The last live message of a subject. -/
def lastOn (l : Log σ ι δ) (s : σ) : Option (Entry σ ι δ) :=
  (l.entries.filter (Entry.isOn s)).getLast?

/-- The last live message of the subjects that satisfy `p`. -/
def lastWhere (l : Log σ ι δ) (p : σ → Bool) : Option (Entry σ ι δ) :=
  (l.entries.filter fun e => e.live && p e.subject).getLast?

/-- The sequence number a subject ends at, `0` for an empty one. -/
def lastSeq (l : Log σ ι δ) (s : σ) : ℕ :=
  match l.lastOn s with
  | none => 0
  | some e => e.seq

/-- The first live message of a subject whose number is at least `n`. -/
def firstFrom (l : Log σ ι δ) (s : σ) (n : ℕ) : Option (Entry σ ι δ) :=
  l.entries.find? fun e => Entry.isOn s e && decide (n ≤ e.seq)

theorem mem_of_lastOn {l : Log σ ι δ} {s : σ} {e : Entry σ ι δ} (h : l.lastOn s = some e) :
    e ∈ l.entries ∧ e.live = true ∧ e.subject = s := by
  have hmem := List.mem_of_getLast? h
  rw [List.mem_filter] at hmem
  simpa only [Entry.isOn, Bool.and_eq_true, decide_eq_true_eq] using hmem

theorem mem_of_firstFrom {l : Log σ ι δ} {s : σ} {n : ℕ} {e : Entry σ ι δ}
    (h : l.firstFrom s n = some e) :
    e ∈ l.entries ∧ e.live = true ∧ e.subject = s ∧ n ≤ e.seq := by
  have hp := List.find?_some h
  simp only [Entry.isOn, Bool.and_eq_true, decide_eq_true_eq] at hp
  exact ⟨List.mem_of_find?_eq_some h, hp.1.1, hp.1.2, hp.2⟩

/-- Among the live messages of a subject from `n` on, the first read has the least number. -/
theorem firstFrom_le {l : Log σ ι δ} {s : σ} {n : ℕ} {e e' : Entry σ ι δ}
    (h : l.firstFrom s n = some e) (he' : e' ∈ l.entries) (hlive : e'.live = true)
    (hs : e'.subject = s) (hn : n ≤ e'.seq) : e.seq ≤ e'.seq := by
  obtain ⟨hp, as, bs, hsplit, has⟩ := List.find?_eq_some_iff_append.mp h
  have hpw := l.pairwise_seq
  rw [hsplit] at hpw he'
  rcases List.mem_append.mp he' with he' | he'
  · have := has e' he'
    simp [Entry.isOn, hlive, hs, hn] at this
  · rcases List.mem_cons.mp he' with rfl | he'
    · exact le_rfl
    · exact ((List.pairwise_cons.mp (List.pairwise_append.mp hpw).2.1).1 e' he').le

/-- A stored message whose number is the last of a subject is the last message of it. -/
theorem lastOn_eq_of_seq {l : Log σ ι δ} {s : σ} {e : Entry σ ι δ} (he : e ∈ l.entries)
    (h : e.seq = l.lastSeq s) : l.lastOn s = some e := by
  rw [lastSeq] at h
  cases hlast : l.lastOn s with
  | none =>
    rw [hlast] at h
    exact absurd (seq_mem_range he).1 (by rw [h]; exact Nat.not_succ_le_zero 0)
  | some e' =>
    rw [hlast] at h
    exact congrArg some (eq_of_seq_eq (mem_of_lastOn hlast).1 he h.symm)

theorem lastOn_eq_lastWhere (l : Log σ ι δ) (s : σ) :
    l.lastOn s = l.lastWhere fun s' => decide (s' = s) := rfl

section LastWhere

omit [DecidableEq σ]

variable {p : σ → Bool}

theorem lastWhere_appendAll_of_not (l : Log σ ι δ) {ms : List (Message σ ι δ)}
    (h : ∀ m ∈ ms, p m.subject = false) : (l.appendAll ms).lastWhere p = l.lastWhere p := by
  have hnil : (stamp l.length ms).filter (fun e => e.live && p e.subject) = [] := by
    rw [List.filter_eq_nil_iff]
    intro e he
    simp [h _ (mem_stamp he).1]
  rw [lastWhere, entries_appendAll, List.filter_append, hnil, List.append_nil]
  rfl

/-- The last message of a stored batch that satisfies `p` becomes the last one of the log. -/
theorem lastWhere_appendAll (l : Log σ ι δ) (a b : List (Message σ ι δ)) (m : Message σ ι δ)
    (hm : p m.subject = true) (h : ∀ m' ∈ b, p m'.subject = false) :
    (l.appendAll (a ++ m :: b)).lastWhere p = some { m with seq := l.length + a.length + 1 } := by
  rw [List.append_cons, appendAll_append, lastWhere_appendAll_of_not _ h, appendAll_append]
  simp [lastWhere, stamp, hm]

/-- A removal of other subjects does not change the last message. -/
theorem lastWhere_purge (l : Log σ ι δ) {q : σ → Bool} (h : ∀ s, p s = true → q s = false) :
    (l.purge q).lastWhere p = l.lastWhere p := by
  have hfilter : (l.purge q).entries.filter (fun e => e.live && p e.subject) =
      l.entries.filter fun e => e.live && p e.subject := by
    change (l.entries.map _).filter _ = _
    induction l.entries with
    | nil => rfl
    | cons e es ih =>
      rw [List.map_cons, List.filter_cons, List.filter_cons, ih]
      by_cases hq : q e.subject = true
      · have hp : p e.subject = false := by
          rw [← Bool.not_eq_true]
          exact fun hp => by simp [h _ hp] at hq
        simp [hq, hp]
      · rw [if_neg hq]
  rw [lastWhere, hfilter]
  rfl

end LastWhere

theorem lastOn_appendAll_of_ne (l : Log σ ι δ) {ms : List (Message σ ι δ)} {s : σ}
    (h : ∀ m ∈ ms, m.subject ≠ s) : (l.appendAll ms).lastOn s = l.lastOn s := by
  rw [lastOn_eq_lastWhere, lastOn_eq_lastWhere]
  exact lastWhere_appendAll_of_not l fun m hm => decide_eq_false (h m hm)

/-- The last message on a subject of a stored batch becomes the last message of the subject. -/
theorem lastOn_appendAll (l : Log σ ι δ) (a b : List (Message σ ι δ)) (m : Message σ ι δ)
    (h : ∀ m' ∈ b, m'.subject ≠ m.subject) :
    (l.appendAll (a ++ m :: b)).lastOn m.subject =
      some { m with seq := l.length + a.length + 1 } := by
  rw [lastOn_eq_lastWhere]
  exact lastWhere_appendAll l a b m (decide_eq_true rfl) fun m' hm' => decide_eq_false (h m' hm')

theorem firstFrom_appendAll_of_ne (l : Log σ ι δ) {ms : List (Message σ ι δ)} {s : σ} (n : ℕ)
    (h : ∀ m ∈ ms, m.subject ≠ s) : (l.appendAll ms).firstFrom s n = l.firstFrom s n := by
  have hnone : (stamp l.length ms).find?
      (fun e => Entry.isOn s e && decide (n ≤ e.seq)) = none := by
    rw [List.find?_eq_none]
    intro e he
    simp [Entry.isOn, h _ (mem_stamp he).1]
  rw [firstFrom, entries_appendAll, List.find?_append, hnone, Option.or_none]
  rfl

/-- A removal of other subjects does not change the end of a subject. -/
theorem lastOn_purge (l : Log σ ι δ) {p : σ → Bool} {s : σ} (h : p s = false) :
    (l.purge p).lastOn s = l.lastOn s := by
  rw [lastOn_eq_lastWhere, lastOn_eq_lastWhere]
  refine lastWhere_purge l fun s' hs' => ?_
  rw [of_decide_eq_true hs', h]

/-- The last message of a subject after an append is the old one or one of the batch. -/
theorem lastOn_appendAll_cases (l : Log σ ι δ) (ms : List (Message σ ι δ)) (s : σ) :
    (l.appendAll ms).lastOn s = l.lastOn s ∨
      ∃ e, (l.appendAll ms).lastOn s = some e ∧ l.length < e.seq ∧ e.toMessage ∈ ms := by
  rw [lastOn, entries_appendAll, List.filter_append, List.getLast?_append]
  cases hlast : ((stamp l.length ms).filter (Entry.isOn s)).getLast? with
  | none => exact .inl rfl
  | some e =>
    obtain ⟨hmem, -, hseq⟩ := mem_stamp (List.mem_of_mem_filter (List.mem_of_getLast? hlast))
    exact .inr ⟨e, rfl, hseq, hmem⟩

theorem lastSeq_le_length (l : Log σ ι δ) (s : σ) : l.lastSeq s ≤ l.length := by
  rw [lastSeq]
  split
  · exact Nat.zero_le _
  · rename_i e he
    exact (seq_mem_range (mem_of_lastOn he).1).2

/-- The last sequence number of a subject grows with the log. -/
theorem lastSeq_le_appendAll (l : Log σ ι δ) (ms : List (Message σ ι δ)) (s : σ) :
    l.lastSeq s ≤ (l.appendAll ms).lastSeq s := by
  rcases l.lastOn_appendAll_cases ms s with h | ⟨e, h, hseq, -⟩
  · rw [lastSeq, lastSeq, h]
  · calc l.lastSeq s ≤ l.length := l.lastSeq_le_length s
      _ ≤ e.seq := hseq.le
      _ = (l.appendAll ms).lastSeq s := by rw [lastSeq, h]

end Log

/-! ### Conditional publication -/

/-- Why a message is refused. -/
inductive Rejection
  | wrongLastSequence
  | duplicate
  deriving DecidableEq, Repr

namespace Log

variable [DecidableEq σ] (dup : Log σ ι δ → ι → Bool)

/-- Store a message unless its identifier counts as seen or its subject does not end at the
number it expects. -/
def offer (l : Log σ ι δ) (m : Message σ ι δ) : Except Rejection (Log σ ι δ) :=
  if m.msgId.any (dup l) then .error .duplicate
  else if m.expectedLast.any (· != l.lastSeq m.subject) then .error .wrongLastSequence
  else .ok (l.append m)

/-- Store a batch of messages, all of them or none. -/
def commit (l : Log σ ι δ) (ms : List (Message σ ι δ)) : Except Rejection (Log σ ι δ) :=
  ms.foldlM (offer dup) l

variable {dup}

theorem offer_eq_ok {l l' : Log σ ι δ} {m : Message σ ι δ} :
    l.offer dup m = .ok l' ↔ m.msgId.any (dup l) = false ∧
      m.expectedLast.any (· != l.lastSeq m.subject) = false ∧ l.append m = l' := by
  rw [offer]
  split_ifs with h₁ h₂ <;> simp [*]

theorem commit_cons_eq_ok {l l' : Log σ ι δ} {m : Message σ ι δ} {ms : List (Message σ ι δ)} :
    l.commit dup (m :: ms) = .ok l' ↔
      (l.offer dup m).isOk ∧ (l.append m).commit dup ms = .ok l' := by
  unfold commit
  rw [List.foldlM_cons]
  cases h : l.offer dup m with
  | error r => simp [Except.isOk, Except.toBool, Bind.bind, Except.bind]
  | ok l₁ =>
    obtain ⟨-, -, rfl⟩ := offer_eq_ok.mp h
    simp [Except.isOk, Except.toBool, Bind.bind, Except.bind]

theorem commit_append_eq_ok {l l' : Log σ ι δ} {ms ms' : List (Message σ ι δ)} :
    l.commit dup (ms ++ ms') = .ok l' ↔
      (l.commit dup ms).isOk ∧ (l.appendAll ms).commit dup ms' = .ok l' := by
  induction ms generalizing l with
  | nil => simp [commit, Except.isOk, Except.toBool, Pure.pure, Except.pure]
  | cons m ms ih =>
    have hisOk : (l.commit dup (m :: ms)).isOk ↔
        (l.offer dup m).isOk ∧ ((l.append m).commit dup ms).isOk := by
      constructor
      · intro h
        cases hc : l.commit dup (m :: ms) with
        | error r => simp [hc, Except.isOk, Except.toBool] at h
        | ok l₁ =>
          obtain ⟨h₁, h₂⟩ := commit_cons_eq_ok.mp hc
          exact ⟨h₁, by simp [h₂, Except.isOk, Except.toBool]⟩
      · rintro ⟨h₁, h₂⟩
        cases hc : (l.append m).commit dup ms with
        | error r => simp [hc, Except.isOk, Except.toBool] at h₂
        | ok l₁ => simp [commit_cons_eq_ok.mpr ⟨h₁, hc⟩, Except.isOk, Except.toBool]
    rw [List.cons_append, commit_cons_eq_ok, ih, hisOk, and_assoc, append, ← appendAll_append]
    rfl

/-- A committed batch is stored as it stands. -/
theorem commit_eq_ok {l l' : Log σ ι δ} {ms : List (Message σ ι δ)}
    (h : l.commit dup ms = .ok l') : l' = l.appendAll ms := by
  induction ms generalizing l with
  | nil => simpa [commit, Pure.pure, Except.pure, eq_comm] using h
  | cons m ms ih =>
    rw [ih (commit_cons_eq_ok.mp h).2, append, ← appendAll_append]
    rfl

/-- A batch without identifiers is not refused as a duplicate. -/
theorem commit_ne_duplicate {l : Log σ ι δ} {ms : List (Message σ ι δ)}
    (h : ∀ m ∈ ms, m.msgId = none) : l.commit dup ms ≠ .error .duplicate := by
  induction ms generalizing l with
  | nil => simp [commit, Pure.pure, Except.pure]
  | cons m ms ih =>
    rw [commit]
    rw [List.foldlM_cons]
    cases ho : l.offer dup m with
    | error r =>
      have hr : r ≠ .duplicate := by
        rintro rfl
        simp only [offer, h m List.mem_cons_self] at ho
        split_ifs at ho <;> simp_all
      simpa [Bind.bind, Except.bind] using hr
    | ok l₁ => exact ih fun m' hm' => h m' (List.mem_cons_of_mem m hm')

/-- An expectation in a committed batch was right, when no earlier message of the batch is on its
subject. -/
theorem lastSeq_of_commit {l l' : Log σ ι δ} {a b : List (Message σ ι δ)} {m : Message σ ι δ}
    {n : ℕ} (h : l.commit dup (a ++ m :: b) = .ok l') (ha : ∀ m' ∈ a, m'.subject ≠ m.subject)
    (hm : m.expectedLast = some n) : l.lastSeq m.subject = n := by
  have hoffer := (commit_cons_eq_ok.mp (commit_append_eq_ok.mp h).2).1
  cases ho : (l.appendAll a).offer dup m with
  | error r => simp [ho, Except.isOk, Except.toBool] at hoffer
  | ok l₁ =>
    have hexp := (offer_eq_ok.mp ho).2.1
    rw [hm, Option.any_some, bne_eq_false_iff_eq, lastSeq, lastOn_appendAll_of_ne l ha] at hexp
    exact hexp.symm

/-- The identifiers that have ever been stored: deduplication without a time limit. -/
def seen [DecidableEq ι] (l : Log σ ι δ) (id : ι) : Bool :=
  l.entries.any fun e => e.msgId == some id

omit [DecidableEq σ] in
theorem seen_appendAll [DecidableEq ι] (l : Log σ ι δ) (ms : List (Message σ ι δ)) (id : ι) :
    (l.appendAll ms).seen id = (l.seen id || decide (id ∈ ms.filterMap Message.msgId)) := by
  have hstamp (n : ℕ) : (stamp n ms).any (fun e => e.msgId == some id) =
      decide (id ∈ ms.filterMap Message.msgId) := by
    rw [Bool.eq_iff_iff, List.any_eq_true, decide_eq_true_eq, List.mem_filterMap]
    constructor
    · rintro ⟨e, he, hid⟩
      exact ⟨e.toMessage, (mem_stamp he).1, beq_iff_eq.mp hid⟩
    · rintro ⟨m, hm, hid⟩
      obtain ⟨e, he, rfl⟩ := exists_mem_stamp (n := n) hm
      exact ⟨e, he, beq_iff_eq.mpr hid⟩
  rw [seen, entries_appendAll, List.any_append, hstamp, seen]

omit [DecidableEq σ] in
theorem seen_of_mem_messages [DecidableEq ι] {l : Log σ ι δ} {m : Message σ ι δ} {id : ι}
    (hm : m ∈ l.messages) (hid : m.msgId = some id) : l.seen id = true := by
  obtain ⟨e, he, rfl⟩ := List.mem_map.mp hm
  exact List.any_eq_true.mpr ⟨e, he, beq_iff_eq.mpr hid⟩

/-- A batch is stored when its identifiers are new and different from each other, and its
expectations are right and each about a subject that no earlier message of the batch is on. -/
theorem commit_of_fresh [DecidableEq ι]
    (hdup : ∀ (l : Log σ ι δ) id, dup l id = true → l.seen id = true) {l : Log σ ι δ}
    {ms : List (Message σ ι δ)} (hnodup : (ms.filterMap Message.msgId).Nodup)
    (hnew : ∀ id ∈ ms.filterMap Message.msgId, l.seen id = false)
    (hexp : ∀ m ∈ ms, ∀ n, m.expectedLast = some n → l.lastSeq m.subject = n)
    (hfirst : ms.Pairwise fun m m' => m'.expectedLast.isSome → m.subject ≠ m'.subject) :
    l.commit dup ms = .ok (l.appendAll ms) := by
  -- the messages are offered from the left; `a` are those already stored
  suffices h : ∀ b a, ms = a ++ b →
      (l.appendAll a).commit dup b = .ok ((l.appendAll a).appendAll b) by
    simpa using h ms [] rfl
  intro b
  induction b with
  | nil => simp [commit, Pure.pure, Except.pure]
  | cons m b ih =>
    intro a hsplit
    have hoffer : (l.appendAll a).offer dup m = .ok ((l.appendAll a).append m) := by
      refine offer_eq_ok.mpr ⟨?_, ?_, rfl⟩
      · cases hid : m.msgId with
        | none => rfl
        | some id =>
          rw [hsplit, List.filterMap_append, List.filterMap_cons_some hid] at hnodup hnew
          have hseen : (l.appendAll a).seen id = false := by
            have hnotin := (List.nodup_append.mp hnodup).2.2
            rw [seen_appendAll, hnew id (by simp), Bool.false_or, decide_eq_false_iff_not]
            exact fun hmem => hnotin id hmem id (by simp) rfl
          rw [Option.any_some, ← Bool.not_eq_true]
          exact fun hd => Bool.false_ne_true (hseen.symm.trans (hdup _ id hd))
      · cases hlast : m.expectedLast with
        | none => rfl
        | some n =>
          have ha (m' : Message σ ι δ) (hm' : m' ∈ a) : m'.subject ≠ m.subject := by
            rw [hsplit] at hfirst
            exact (List.pairwise_append.mp hfirst).2.2 m' hm' m List.mem_cons_self (by simp [hlast])
          have hn := hexp m (by simp [hsplit]) n hlast
          rw [Option.any_some, bne_eq_false_iff_eq, lastSeq, lastOn_appendAll_of_ne l ha, ← hn]
          rfl
    rw [commit_cons_eq_ok, hoffer]
    refine ⟨rfl, ?_⟩
    have hnext := ih (a ++ [m]) (by rw [hsplit, List.append_assoc]; rfl)
    rw [appendAll_append l a, ← appendAll_append (l.appendAll a)] at hnext
    exact hnext

/-- Without a time limit, no identifier of a committed batch was stored before it. -/
theorem seen_eq_false_of_commit [DecidableEq ι] {l l' : Log σ ι δ} {ms : List (Message σ ι δ)}
    {m : Message σ ι δ} {id : ι} (h : l.commit seen ms = .ok l') (hm : m ∈ ms)
    (hid : m.msgId = some id) : l.seen id = false := by
  obtain ⟨a, b, rfl⟩ := List.append_of_mem hm
  have hoffer := (commit_cons_eq_ok.mp (commit_append_eq_ok.mp h).2).1
  cases ho : (l.appendAll a).offer seen m with
  | error r => simp [ho, Except.isOk, Except.toBool] at hoffer
  | ok l₁ =>
    have hdup := (offer_eq_ok.mp ho).1
    simp only [hid, Option.any_some, seen, entries_appendAll, List.any_append,
      Bool.or_eq_false_iff] at hdup
    exact hdup.1

end Log

end SubjectLog
