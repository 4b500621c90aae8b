import Grctl.System.World

/-!
# What a step can do

`step` is a function with many branches; `Effect` lists its outcomes once, each with the facts
that made it possible. Invariants are proved from the projections at the end of the file, which
say what can happen to the stream, to the calls and to the journal.

## Main definitions

* `Effect cfg w a w'`: the label `a` takes the world `w` to `w'`.
* `Batch cfg w c sn records stream`: a call commits `records`.

## Main results

* `effect_of_step`: every step is one of the effects.
* `Effect.change`, `Effect.entryChange`, `Effect.callChange`: what happens to the stream and the
  journal, to a stored message, and to a call.
-/

namespace Grctl

open SubjectLog Lts

/-- The call `c` of the world `w`, with the snapshot `sn`, commits `records`, which takes the
stream to `stream`. -/
structure Batch (cfg : Manager.Config) (w : World) (c : Call) (sn : StateSnapshot)
    (records : List Record) (stream : Stream) : Prop where
  call : c ∈ w.calls
  phase : c.phase = .ready sn
  planned : ∃ env failEnv, handleRecords cfg.defaults env failEnv c.directive sn = .ok records
  commit : commit cfg.dup w.stream records = .ok stream

/-- The outcomes of the steps. -/
inductive Effect (cfg : Manager.Config) (w : World) : Label → World → Prop
  | publish {d : Directive} (hd : d.Decoded) (htaken : d.subject.Taken) :
      Effect cfg w (.publish d) { w with stream := w.stream.append d.message }
  | duplicate {d : Directive} : Effect cfg w (.publish d) w
  | admitRun {info : RunInfo} :
      Effect cfg w (.admitRun info) { w with admitted := w.admitted ++ [info] }
  | saveRun {k : ℕ} {info : RunInfo} (hinfo : w.admitted[k]? = some info) (htaken : info.Taken) :
      Effect cfg w (.saveRun k) { w with
        stream := w.stream.append (runInfoMessage info)
        admitted := w.admitted.eraseIdx k }
  | saveRefused {k : ℕ} :
      Effect cfg w (.saveRun k) { w with admitted := w.admitted.eraseIdx k }
  | dropRun {k : ℕ} : Effect cfg w (.dropRun k) { w with admitted := w.admitted.eraseIdx k }
  | recordHistory {h : HistoryEvent} (hh : h.kind = .recorded)
      (htaken : (Record.history h).Taken) :
      Effect cfg w (.recordHistory h)
        { w with stream := w.stream.appendAll (Record.history h).messages }
  | deliver {e : StreamEntry} {ty : WFType} {wf : WFID} {run : RunID} {d : Directive}
      (he : e ∈ w.stream.entries) (hlive : e.live = true)
      (hsubject : e.subject = .directive ty wf run) (hdata : e.data = .directive d)
      (hack : e.seq ∉ w.acked) (hat : w.entryAt e.seq = some e) :
      Effect cfg w (.deliver e.seq)
        { w with calls := w.calls ++ [{ seq := e.seq, directive := d }] }
  | readState {k : ℕ} {c : Call} {s : Option RunState} (hc : w.calls[k]? = some c)
      (hphase : c.phase = .delivered)
      (hs : getRunState w.stream c.directive.runInfo.wfID c.directive.runInfo.id = .ok s) :
      Effect cfg w (.readState k) (w.advance k c (.gotState (s.getD .zero)))
  | readHistory {k : ℕ} {c : Call} {s : RunState} (hc : w.calls[k]? = some c)
      (hphase : c.phase = .gotState s) :
      Effect cfg w (.readHistory k) (w.advance k c (.gotHistory s
        (getLastHistorySeqID w.stream c.directive.runInfo.wfID c.directive.runInfo.id)))
  | readEvent {k : ℕ} {c : Call} {s : RunState} {n : ℕ} {e : Option Directive}
      (hc : w.calls[k]? = some c) (hphase : c.phase = .gotHistory s n)
      (he : getNextEvent w.stream c.directive.runInfo.wfID s.lastEventSeqID = .ok e) :
      Effect cfg w (.readEvent k) (w.advance k c
        (.ready { runState := s, event := e.getD .zero, lastHistorySeqID := n }))
  | drop {a : Label} {k : ℕ} : Effect cfg w a (w.drop k)
  | crash {a : Label} : Effect cfg w a w.crash
  | commit {k : ℕ} {c : Call} {sn : StateSnapshot} {env failEnv : Readings} {ack : Bool}
      {records : List Record} {stream : Stream} (hc : w.calls[k]? = some c)
      (h : Batch cfg w c sn records stream) :
      Effect cfg w (.finish k env failEnv ack)
        { w.drop k with
          stream := stream
          acked := if ack then c.seq :: w.acked else w.acked
          journal := w.journal ++ [w.commitOf c sn records] }
  | reject {k : ℕ} {c : Call} {sn : StateSnapshot} {env failEnv : Readings} {ack : Bool}
      {acked : List ℕ} (hc : w.calls[k]? = some c) (hphase : c.phase = .ready sn)
      (hacked : acked = w.acked ∨ acked = c.seq :: w.acked ∧
        (∀ records, handleRecords cfg.defaults env failEnv c.directive sn = .ok records →
          Grctl.commit cfg.dup w.stream records = .error (.rejected .duplicate))) :
      Effect cfg w (.finish k env failEnv ack) { w.drop k with acked := acked }
  | purgeTask {seq n : ℕ} {task : BackgroundTask} {e : StreamEntry} {wf : WFID}
      (he : e ∈ w.stream.entries) (hseq : e.seq = seq) (hlive : e.live = true)
      (hsubject : e.subject = .bgTask) (hdata : e.data = .bgTask task)
      (htask : BgTask.handle cfg.maxTaskDeliveries task n = .purgeRunResidue wf) :
      Effect cfg w (.deliverTask seq n)
        { w with purges := w.purges ++ [{ task := task, pending := purgePatterns wf }] }
  | cancelTimer {seq n : ℕ} {wf : WFID} {kind : TimerKind} {id : TimerID} :
      Effect cfg w (.deliverTask seq n)
        { w with stream := w.stream.purge (· == .timer wf kind id) }
  | purgeNext {k : ℕ} {task : BackgroundTask} {p : PurgePattern} {ps : List PurgePattern}
      (hk : w.purges[k]? = some { task := task, pending := p :: ps }) :
      Effect cfg w (.purgeNext k) { w with
        stream := w.stream.purge p.covers
        purges := w.purges.set k { task := task, pending := ps } }
  | fire {e : StreamEntry} {wf : WFID} {kind : TimerKind} {id : TimerID} {t : Timer}
      (he : e ∈ w.stream.entries) (hlive : e.live = true)
      (hsubject : e.subject = .timer wf kind id) (hdata : e.data = .timer t)
      (hat : w.entryAt e.seq = some e) :
      Effect cfg w (.fire e.seq) { w with
        stream := w.stream.purge (· == .timer wf kind id)
        fired := w.fired ++ [t] }

section Inversion

variable {cfg : Manager.Config} {w w' : World} {a : Label}

theorem mem_of_entryAt {seq : ℕ} {e : StreamEntry} (h : w.entryAt seq = some e) :
    e ∈ w.stream.entries ∧ e.live = true ∧ e.seq = seq := by
  have hp := List.find?_some h
  simp only [Bool.and_eq_true, beq_iff_eq] at hp
  exact ⟨List.mem_of_find?_eq_some h, hp⟩

theorem effect_of_finish {k : ℕ} {c : Call} {sn : StateSnapshot} {env failEnv : Readings}
    {ack : Bool} (hc : w.calls[k]? = some c) (hphase : c.phase = .ready sn) :
    Effect cfg w (.finish k env failEnv ack) (w.finish cfg k c sn env failEnv ack) := by
  -- a processed call without a commit: the failure could not be built, or is a duplicate
  have processed (hdup : ∀ records,
      handleRecords cfg.defaults env failEnv c.directive sn = .ok records →
        Grctl.commit cfg.dup w.stream records = .error (.rejected .duplicate)) :
      Effect cfg w (.finish k env failEnv ack)
        { w.drop k with acked := if ack then c.seq :: w.acked else w.acked } :=
    .reject hc hphase (by split_ifs <;> simp_all)
  unfold World.finish Manager.handleSnapshot
  cases hrec : handleRecords cfg.defaults env failEnv c.directive sn with
  | error f =>
    cases f with
    | error message => simpa using processed (by simp [hrec])
    | nilDereference => exact .crash
    | typeAssertion => exact .crash
  | ok records =>
    cases hcommit : Grctl.commit cfg.dup w.stream records with
    | ok l' =>
      have hbatch : Batch cfg w c sn records l' :=
        ⟨List.mem_of_getElem? hc, hphase, ⟨env, failEnv, hrec⟩, hcommit⟩
      have heffect : Effect cfg w (.finish k env failEnv ack) _ := .commit hc hbatch
      simpa [Manager.commit, hcommit, (commit_eq_ok hcommit).2.1] using heffect
    | error e =>
      by_cases he : e = .rejected .duplicate
      · subst he
        simpa [Manager.commit, hcommit] using processed (by simp [hrec, hcommit])
      · have hretry : Manager.commit cfg w.stream records =
            { stream := w.stream, result := .retryable } := by
          unfold Manager.commit
          rw [hcommit]
          split <;> simp_all
        have heffect : Effect cfg w (.finish k env failEnv ack)
            { w.drop k with acked := w.acked } := .reject hc hphase (.inl rfl)
        simpa [hretry] using heffect

/-- Every step is one of the effects. -/
theorem effect_of_step (h : step cfg w a = some w') : Effect cfg w a w' := by
  cases a with
  | publish d =>
    simp only [step] at h
    split_ifs at h with hd
    cases h
    rcases publishDirective_eq cfg.dup w.stream d with hl | hl <;> rw [hl]
    · exact .duplicate
    · by_cases htaken : d.subject.Taken
      · exact .publish hd htaken
      · rw [← hl, publishDirective, if_neg htaken]
        exact .duplicate
  | admitRun info =>
    simp only [step] at h
    split at h <;> cases h
    exact .admitRun
  | saveRun k =>
    simp only [step] at h
    split at h
    · rename_i info hinfo
      cases h
      rw [saveRunInfo]
      split_ifs with htaken
      · exact .saveRun hinfo htaken
      · exact .saveRefused
    · cases h
  | dropRun k =>
    cases h
    exact .dropRun
  | recordHistory e =>
    simp only [step] at h
    split_ifs at h with he
    cases h
    exact .recordHistory he.1 he.2
  | deliver seq =>
    simp only [step] at h
    split at h
    · rename_i he
      split_ifs at h with hack
      cases h
      obtain ⟨hmem, hlive, rfl⟩ := mem_of_entryAt he
      exact .deliver hmem hlive rfl rfl hack he
    · cases h
  | readState k =>
    simp only [step] at h
    split at h
    · rename_i hc
      split at h <;> cases h
      · exact .readState hc rfl ‹_›
      · exact .drop
    · cases h
  | readHistory k =>
    simp only [step] at h
    split at h <;> cases h
    exact .readHistory ‹_› rfl
  | readEvent k =>
    simp only [step] at h
    split at h
    · rename_i hc
      split at h <;> cases h
      · exact .readEvent hc rfl ‹_›
      · exact .drop
      · exact .crash
    · cases h
  | finish k env failEnv ack =>
    simp only [step] at h
    split at h <;> cases h
    exact effect_of_finish ‹_› rfl
  | abandon k =>
    cases h
    exact .drop
  | deliverTask seq n =>
    simp only [step] at h
    split at h
    · rename_i he
      obtain ⟨hmem, hlive, hseq⟩ := mem_of_entryAt he
      split at h <;> cases h
      · exact .purgeTask hmem hseq hlive rfl rfl ‹_›
      · exact .cancelTimer
    · cases h
  | purgeNext k =>
    simp only [step] at h
    split at h <;> cases h
    exact .purgeNext ‹_›
  | fire seq =>
    simp only [step] at h
    split at h <;> cases h
    rename_i he
    obtain ⟨hmem, hlive, rfl⟩ := mem_of_entryAt he
    exact .fire hmem hlive rfl rfl he

/-- A batch is planned with the readings of its step. -/
theorem handleRecords_of_finish {k : ℕ} {c : Call} {sn : StateSnapshot} {env failEnv : Readings}
    {ack : Bool} {records : List Record} (h : step cfg w (.finish k env failEnv ack) = some w')
    (hc : w.calls[k]? = some c) (hphase : c.phase = .ready sn)
    (hj : w'.journal = w.journal ++ [w.commitOf c sn records]) :
    handleRecords cfg.defaults env failEnv c.directive sn = .ok records := by
  obtain ⟨seq, d, phase⟩ := c
  cases hphase
  simp only [step, hc, Option.some.injEq] at h
  subst h
  unfold World.finish Manager.handleSnapshot at hj
  cases hrec : handleRecords cfg.defaults env failEnv d sn with
  | error f =>
    cases f <;> simp [hrec] at hj
  | ok records' =>
    simp only [hrec] at hj
    rcases Manager.commit_cases cfg w.stream records' with ⟨l, hl, hcommit⟩ | ⟨-, hnone⟩
    · simp only [hcommit, (commit_eq_ok hl).2.1, if_false, List.append_cancel_left_eq] at hj
      cases hj
      rfl
    · simp [hnone] at hj

end Inversion

/-! ### What happens to the stream, the journal and the calls -/

/-- The subjects that purges touch. -/
def Subject.isResidue : Subject → Bool
  | .directive .. | .timer .. | .inbox _ | .workerTask .. => true
  | _ => false

theorem PurgePattern.isResidue_of_covers {p : PurgePattern} {s : Subject} (h : p.covers s = true) :
    s.isResidue = true := by
  cases p <;> cases s <;> simp_all [covers, Subject.isResidue]

theorem Subject.isResidue_of_beq_timer {wf : WFID} {kind : TimerKind} {id : TimerID} (s : Subject)
    (h : (s == .timer wf kind id) = true) : s.isResidue = true := by
  rw [beq_iff_eq] at h
  exact h ▸ rfl

/-- Messages that reach the stream outside of a committed batch. -/
inductive Outside : Msg → Prop
  | directive {d : Directive} (hd : d.Decoded) (htaken : d.subject.Taken) : Outside d.message
  | runInfo {info : RunInfo} (htaken : info.Taken) : Outside (runInfoMessage info)
  | history {h : HistoryEvent} (hh : h.kind = .recorded) (htaken : (Record.history h).Taken) :
      Outside { subject := .history h.wfID h.runID, data := .history h }

/-- The messages that a step stores; `j` is the journal after it. -/
inductive Origin (cfg : Manager.Config) (w : World) (j : List Commit) : Label → Msg → Prop
  | publish {d : Directive} (hd : d.Decoded) : Origin cfg w j (.publish d) d.message
  | runInfo {k : ℕ} {info : RunInfo} : Origin cfg w j (.saveRun k) (runInfoMessage info)
  | history {h : HistoryEvent} (hh : h.kind = .recorded) :
      Origin cfg w j (.recordHistory h) { subject := .history h.wfID h.runID, data := .history h }
  | batch {k : ℕ} {c : Call} {sn : StateSnapshot} {env failEnv : Readings} {ack : Bool}
      {records : List Record} {stream : Stream} {r : Record} {m : Msg} (hc : w.calls[k]? = some c)
      (h : Batch cfg w c sn records stream) (hr : r ∈ records) (hm : m ∈ r.messages)
      (hj : j = w.journal ++ [w.commitOf c sn records]) :
      Origin cfg w j (.finish k env failEnv ack) m

/-- How a message of the stream after a step came about: it was there before, though it may have
been removed, or it is new. -/
inductive EntryChange (cfg : Manager.Config) (w : World) (j : List Commit) (a : Label)
    (e : StreamEntry) : Prop
  | old {e₀ : StreamEntry} (he : e₀ ∈ w.stream.entries) (hm : e₀.toMessage = e.toMessage)
      (hseq : e₀.seq = e.seq) (hlive : e.live = true → e₀.live = true)
  | new (ho : Origin cfg w j a e.toMessage) (hlive : e.live = true) (hseq : w.stream.length < e.seq)

/-- What a step can do to the stream and the journal. -/
inductive Change (cfg : Manager.Config) (w : World) : Stream → List Commit → Prop
  | same : Change cfg w w.stream w.journal
  | outside {m : Msg} (hm : Outside m) : Change cfg w (w.stream.append m) w.journal
  | purge {p : Subject → Bool} (hp : ∀ s, p s = true → s.isResidue = true) :
      Change cfg w (w.stream.purge p) w.journal
  | commit {c : Call} {sn : StateSnapshot} {records : List Record} {stream : Stream}
      (h : Batch cfg w c sn records stream) :
      Change cfg w stream (w.journal ++ [w.commitOf c sn records])

/-- How a call of the world after a step came about. -/
inductive CallChange (w : World) : Label → Call → Prop
  | old {a : Label} {c : Call} (hc : c ∈ w.calls) : CallChange w a c
  | deliver {e : StreamEntry} {ty : WFType} {wf : WFID} {run : RunID} {d : Directive}
      (he : e ∈ w.stream.entries) (hsubject : e.subject = .directive ty wf run)
      (hdata : e.data = .directive d) :
      CallChange w (.deliver e.seq) { seq := e.seq, directive := d }
  | readState {k : ℕ} {c : Call} {s : Option RunState} (hk : w.calls[k]? = some c)
      (hphase : c.phase = .delivered)
      (hs : getRunState w.stream c.directive.runInfo.wfID c.directive.runInfo.id = .ok s) :
      CallChange w (.readState k) { c with phase := .gotState (s.getD .zero) }
  | readHistory {k : ℕ} {c : Call} {s : RunState} {n : ℕ} (hk : w.calls[k]? = some c)
      (hphase : c.phase = .gotState s) :
      CallChange w (.readHistory k) { c with phase := .gotHistory s n }
  | readEvent {k : ℕ} {c : Call} {s : RunState} {n : ℕ} {e : Option Directive}
      (hk : w.calls[k]? = some c) (hphase : c.phase = .gotHistory s n)
      (he : getNextEvent w.stream c.directive.runInfo.wfID s.lastEventSeqID = .ok e) :
      CallChange w (.readEvent k)
        { c with phase := .ready { runState := s, event := e.getD .zero, lastHistorySeqID := n } }

namespace Effect

variable {cfg : Manager.Config} {w w' : World} {a : Label}

theorem change (h : Effect cfg w a w') : Change cfg w w'.stream w'.journal := by
  cases h with
  | publish hd htaken => exact .outside (.directive hd htaken)
  | saveRun _ htaken => exact .outside (.runInfo htaken)
  | recordHistory hh htaken => exact .outside (.history hh htaken)
  | commit hc h => exact .commit h
  | cancelTimer => exact .purge Subject.isResidue_of_beq_timer
  | fire => exact .purge Subject.isResidue_of_beq_timer
  | purgeNext => exact .purge fun s => PurgePattern.isResidue_of_covers
  | _ => exact .same

theorem entryChange (h : Effect cfg w a w') {e : StreamEntry} (he : e ∈ w'.stream.entries) :
    EntryChange cfg w w'.journal a e := by
  have same (he : e ∈ w.stream.entries) : EntryChange cfg w w'.journal a e := .old he rfl rfl id
  have appended {ms : List Msg} (he : e ∈ (w.stream.appendAll ms).entries)
      (hms : ∀ m ∈ ms, Origin cfg w w'.journal a m) : EntryChange cfg w w'.journal a e := by
    rcases List.mem_append.mp he with he | he
    · exact same he
    · obtain ⟨hm, hlive, hseq⟩ := mem_stamp he
      exact .new (hms _ hm) hlive hseq
  have purged {p : Subject → Bool} (he : e ∈ (w.stream.purge p).entries) :
      EntryChange cfg w w'.journal a e := by
    obtain ⟨e₀, he₀, rfl⟩ := Log.mem_purge.mp he
    split_ifs
    · exact .old he₀ rfl rfl (by simp)
    · exact .old he₀ rfl rfl id
  cases h with
  | publish hd => exact appended he (by simpa using .publish hd)
  | saveRun => exact appended he (by simpa using .runInfo)
  | recordHistory hh => exact appended he (by simpa [Record.messages] using .history hh)
  | commit hc hb =>
    rw [show _ = _ from eq_appendAll_of_commit hb.commit] at he
    refine appended he fun m hm => ?_
    obtain ⟨r, hr, hm⟩ := List.mem_flatMap.mp hm
    exact .batch hc hb hr hm rfl
  | cancelTimer => exact purged he
  | purgeNext => exact purged he
  | fire => exact purged he
  | _ => exact same he

theorem callChange (h : Effect cfg w a w') {c : Call} (hc : c ∈ w'.calls) : CallChange w a c := by
  -- a call that moves on replaces the one at its place
  have moved {k : ℕ} {c₀ : Call} {phase : Phase} (hc : c ∈ (w.advance k c₀ phase).calls)
      (hnew : CallChange w a { c₀ with phase := phase }) : CallChange w a c := by
    rcases List.mem_or_eq_of_mem_set hc with hc | rfl
    · exact .old hc
    · exact hnew
  cases h with
  | deliver he _ hsubject hdata =>
    rcases List.mem_append.mp hc with hc | hc
    · exact .old hc
    · rw [List.mem_singleton.mp hc]
      exact .deliver he hsubject hdata
  | readState hk hphase hs => exact moved hc (.readState hk hphase hs)
  | readHistory hk hphase => exact moved hc (.readHistory hk hphase)
  | readEvent hk hphase he => exact moved hc (.readEvent hk hphase he)
  | crash => cases hc
  | drop => exact .old (List.mem_of_mem_eraseIdx hc)
  | commit => exact .old (List.mem_of_mem_eraseIdx hc)
  | reject => exact .old (List.mem_of_mem_eraseIdx hc)
  | _ => exact .old hc

end Effect

/-- A call was there before the step, perhaps less far, or is started by it. -/
theorem CallChange.origin {w : World} {a : Label} {c : Call} (h : CallChange w a c) :
    (∃ c₀ ∈ w.calls, c₀.seq = c.seq ∧ c₀.directive = c.directive) ∨
      ∃ e ∈ w.stream.entries, a = .deliver e.seq ∧ c.seq = e.seq ∧
        (∃ ty wf run, e.subject = .directive ty wf run) ∧ e.data = .directive c.directive := by
  cases h with
  | old hc => exact .inl ⟨c, hc, rfl, rfl⟩
  | deliver he hsubject hdata => exact .inr ⟨_, he, rfl, rfl, ⟨_, _, _, hsubject⟩, hdata⟩
  | readState hk => exact .inl ⟨_, List.mem_of_getElem? hk, rfl, rfl⟩
  | readHistory hk => exact .inl ⟨_, List.mem_of_getElem? hk, rfl, rfl⟩
  | readEvent hk => exact .inl ⟨_, List.mem_of_getElem? hk, rfl, rfl⟩

/-- No message is ever forgotten. -/
theorem Change.length_le {cfg : Manager.Config} {w : World} {l : Stream} {j : List Commit}
    (h : Change cfg w l j) : w.stream.length ≤ l.length := by
  cases h with
  | same => exact le_rfl
  | outside => simp [Log.append]
  | purge => simp
  | commit h => simp [eq_appendAll_of_commit h.commit]

/-- No batch is ever forgotten. -/
theorem Change.journal_sublist {cfg : Manager.Config} {w : World} {l : Stream} {j : List Commit}
    (h : Change cfg w l j) : w.journal.Sublist j := by
  cases h with
  | commit => exact List.sublist_append_left ..
  | _ => exact List.Sublist.refl _

/-- The stream only grows. -/
theorem Change.extends {cfg : Manager.Config} {w : World} {l : Stream} {j : List Commit}
    (h : Change cfg w l j) : w.stream.Extends l := by
  cases h with
  | same => exact .refl _
  | outside => exact Log.extends_appendAll ..
  | purge => exact Log.extends_purge ..
  | commit h =>
    rw [eq_appendAll_of_commit h.commit]
    exact Log.extends_appendAll ..

end Grctl
