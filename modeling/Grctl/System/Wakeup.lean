import Grctl.System.Progress

/-!
# Wake-ups

A run that waits takes the next event from its inbox when a wake-up directive is handled. Two
batches publish wake-ups: the one of a wait, when its snapshot shows an event, and the one of an
event, when its snapshot shows a wait and no other event. Each goes by its snapshot, and the batch
of an event is compared with nothing when it commits, so the two can miss each other.

Here is when they do not: when what the two snapshots show about the wait and the inbox is still
true at the commit.

## Main definitions

* `Unseen`, `WakePending`: an event after the cursor, and a wake-up that is not acknowledged.
* `WakeGuard`: the steps under which no wake-up is lost.

## Main results

* `wake_pending_of_unseen`: a waiting run with an event after its cursor has a wake-up.
* `wakeup_lost`: without the condition it may have none.
-/

namespace Grctl

open SubjectLog Lts

/-- The inbox of `wf` holds an event after the sequence number `n`. -/
def Unseen (l : Stream) (wf : WFID) (n : ℕ) : Prop :=
  ∃ e ∈ l.entries, e.subject = .inbox wf ∧ e.live = true ∧ n < e.seq

instance (l : Stream) (wf : WFID) (n : ℕ) : Decidable (Unseen l wf n) :=
  inferInstanceAs (Decidable (∃ e ∈ l.entries, _))

/-- A stored wake-up of the run `run` of `wf`. -/
def isWake (wf : WFID) (run : RunID) (e : StreamEntry) : Bool :=
  match e.subject, e.data with
  | .directive _ _ _, .directive d => d.kind == .wakeFromInbox && decide (d.OfRun wf run)
  | _, _ => false

/-- A wake-up of the run has been published and is not acknowledged. -/
def WakePending (wf : WFID) (run : RunID) (l : Stream) (acked : List ℕ) : Prop :=
  ∃ e ∈ l.entries, isWake wf run e = true ∧ e.live = true ∧ e.seq ∉ acked

instance (wf : WFID) (run : RunID) (l : Stream) (acked : List ℕ) :
    Decidable (WakePending wf run l acked) :=
  inferInstanceAs (Decidable (∃ e ∈ l.entries, _))

/-- What the snapshot of a call shows about the wait and the inbox is still true where it decides
about a wake-up: an event that comes while the run waits with nothing unseen knows that, and so
does a wait that comes while there is something unseen. -/
def UpToDate (wf : WFID) (run : RunID) (l : Stream) (d : Directive) (sn : StateSnapshot) : Prop :=
  d.OfRun wf run →
    (d.kind = .event → (currentState l wf run).kind = .wait →
      ¬ Unseen l wf (currentState l wf run).lastEventSeqID →
        sn.runState.kind = .wait ∧ sn.event.id = "") ∧
    (d.AsksFor .wait → Unseen l wf (currentState l wf run).lastEventSeqID → sn.event.id ≠ "")

instance (wf : WFID) (run : RunID) (l : Stream) (d : Directive) (sn : StateSnapshot) :
    Decidable (UpToDate wf run l d sn) :=
  inferInstanceAs (Decidable (_ → _ ∧ _))

/-- Calls of the run manager for one run of `wf`, up to date when they commit. -/
def WakeGuard (wf : WFID) (run : RunID) (w : World) (a : Label) : Prop :=
  a.ForOneRun wf run ∧ a.Handling ∧
    ∀ k ∈ a.finished?, ∀ p ∈ w.ready? k, UpToDate wf run w.stream p.1 p.2

instance (wf : WFID) (run : RunID) (w : World) (a : Label) : Decidable (WakeGuard wf run w a) :=
  inferInstanceAs (Decidable (_ ∧ _ ∧ _))

/-- A waiting run with an unseen event has a wake-up. -/
def Woken (wf : WFID) (run : RunID) (l : Stream) (acked : List ℕ) : Prop :=
  ∀ s, getRunState l wf run = .ok (some s) → s.kind = .wait → Unseen l wf s.lastEventSeqID →
    WakePending wf run l acked

section Growth

variable {w : World} {wf : WFID} {run : RunID} {l : Stream} {acked : List ℕ} {n : ℕ}

theorem unseen_of_appendAll {ms : List Msg} (h : Unseen (l.appendAll ms) wf n) :
    Unseen l wf n ∨ ∃ m ∈ ms, m.subject = .inbox wf := by
  obtain ⟨e, he, hs, hlive, hn⟩ := h
  rcases List.mem_append.mp he with he | he
  · exact .inl ⟨e, he, hs, hlive, hn⟩
  · exact .inr ⟨_, (mem_stamp he).1, hs⟩

theorem WakePending.appendAll (h : WakePending wf run l acked) (ms : List Msg) :
    WakePending wf run (l.appendAll ms) acked := by
  obtain ⟨e, he, hwake⟩ := h
  exact ⟨e, List.mem_append_left _ he, hwake⟩

theorem Unseen.of_purge {p : Subject → Bool} (h : Unseen (l.purge p) wf n) : Unseen l wf n := by
  obtain ⟨e, he, hs, hlive, hn⟩ := h
  obtain ⟨e₀, he₀, rfl⟩ := Log.mem_purge.mp he
  by_cases hp : p e₀.subject = true
  · simp [hp] at hlive
  · rw [if_neg hp] at hs hlive hn
    exact ⟨e₀, he₀, hs, hlive, hn⟩

/-- Removing a timer does not touch the wake-ups. -/
theorem WakePending.purge_timer (h : WakePending wf run l acked) (wf' : WFID) (kind : TimerKind)
    (id : TimerID) : WakePending wf run (l.purge (· == .timer wf' kind id)) acked := by
  obtain ⟨e, he, hwake, hlive, hack⟩ := h
  have hsubject : ¬ (e.subject == .timer wf' kind id) = true := fun hs => by
    simp [isWake, beq_iff_eq.mp hs] at hwake
  exact ⟨e, Log.mem_purge.mpr ⟨e, he, by rw [if_neg hsubject]⟩, hwake, hlive, hack⟩

/-- Only handling a wake-up acknowledges it. -/
theorem WakePending.ack (h : WakePending wf run w.stream w.acked) (hw : Sound w) {c : Call}
    (hc : c ∈ w.calls) (hkind : c.directive.kind ≠ .wakeFromInbox ∨ ¬ c.directive.OfRun wf run) :
    WakePending wf run w.stream (c.seq :: w.acked) := by
  obtain ⟨e, he, hwake, hlive, hack⟩ := h
  refine ⟨e, he, hwake, hlive, ?_⟩
  rw [List.mem_cons, not_or]
  refine ⟨fun hseq => ?_, hack⟩
  obtain ⟨e', he', hm, hseq'⟩ := (hw.calls c hc).entry
  cases Log.eq_of_seq_eq he he' (hseq.trans hseq'.symm)
  simp only [isWake, hm, Directive.message, Directive.subject, Bool.and_eq_true, beq_iff_eq,
    decide_eq_true_eq] at hwake
  rcases hkind with hkind | hkind
  · exact hkind hwake.1
  · exact hkind hwake.2

end Growth

variable {cfg : Manager.Config} {ok : World → Label → Prop} {w : World} {wf : WFID} {run : RunID}

/-- What has been acknowledged has been stored. -/
theorem acked_le_of_reachableBy (h : ReachableBy cfg ok w) :
    ∀ n ∈ w.acked, n ≤ w.stream.length := by
  refine Reach.invariant (P := fun w => ∀ n ∈ w.acked, n ≤ w.stream.length) h
    (fun n hn => by cases hn) fun w a w' hr ih _ hstep n hn => ?_
  have hw := sound_of_reachableBy hr
  have heffect := effect_of_step hstep
  have hle := heffect.change.length_le
  have called {c : Call} (hc : c ∈ w.calls) (hn : n ∈ c.seq :: w.acked) : n ≤ w.stream.length := by
    rcases List.mem_cons.mp hn with rfl | hn
    · obtain ⟨e, he, -, hseq⟩ := (hw.calls c hc).entry
      exact hseq ▸ (Log.seq_mem_range he).2
    · exact ih n hn
  cases heffect with
  | commit hc hb =>
    refine le_trans (called (List.mem_of_getElem? hc) ?_) hle
    change n ∈ if _ then _ else _ at hn
    split_ifs at hn
    · exact hn
    · exact List.mem_cons_of_mem _ hn
  | reject hc _ hacked =>
    rcases hacked with rfl | ⟨rfl, -⟩
    · exact ih n hn
    · exact called (List.mem_of_getElem? hc) hn
  | _ => exact (ih n hn).trans hle

/-- A wake-up in a committed batch is pending: its message is newer than all acknowledgements. -/
theorem Batch.wakePending {c : Call} {sn : StateSnapshot} {records : List Record} {l : Stream}
    (hb : Batch cfg w c sn records l) {acked : List ℕ}
    (hacked : ∀ n ∈ acked, n ≤ w.stream.length) {wake : Directive}
    (hwake : Record.directive wake ∈ records) (hkind : wake.kind = .wakeFromInbox)
    (hrun : wake.OfRun wf run) : WakePending wf run l acked := by
  rw [eq_appendAll_of_commit hb.commit]
  have hm : wake.message ∈ records.flatMap Record.messages :=
    List.mem_flatMap.mpr ⟨_, hwake, List.mem_singleton_self _⟩
  obtain ⟨e, he, hem⟩ := exists_mem_stamp (n := w.stream.length) hm
  obtain ⟨-, hlive, hseq⟩ := mem_stamp he
  refine ⟨e, List.mem_append_right _ he, ?_, hlive, fun hack => ?_⟩
  · simp [isWake, hem, Directive.message, Directive.subject, hkind, hrun]
  · have := hacked _ hack
    omega

/-- A refused wake-up is not acknowledged: its batch has no identifiers. -/
theorem not_duplicate_of_wake {c : Call} {sn : StateSnapshot} (hw : Sound w) (hc : c ∈ w.calls)
    (hphase : c.phase = .ready sn) (hkind : c.directive.kind = .wakeFromInbox)
    (env failEnv : Readings) :
    ¬ ∀ records, handleRecords cfg.defaults env failEnv c.directive sn = .ok records →
      commit cfg.dup w.stream records = .error (.rejected .duplicate) := by
  intro hdup
  obtain ⟨records, hrec, hshape⟩ : ∃ records,
      handleRecords cfg.defaults env failEnv c.directive sn = .ok records ∧
        (records = [] ∨ ∃ s, Dispatch sn.event sn.runState s records) :=
    handleRecords_of_wake (hw.calls c hc).decoded (hw.eventSound hc hphase) hkind
  have hrej := hdup records hrec
  rcases hshape with rfl | ⟨s, hs⟩
  · simp [commit] at hrej
  · have hids : ∀ m ∈ records.flatMap Record.messages, m.msgId = none := by
      cases hs
      simp [Record.messages]
    exact Log.commit_ne_duplicate hids (commit_eq_rejected hrej)

/-- A wake-up from before a batch is still pending after it, unless the call has handled it. -/
theorem WakePending.of_batch {c : Call} {sn : StateSnapshot} {records : List Record} {l : Stream}
    {acked : List ℕ} (h : WakePending wf run w.stream w.acked) (hw : Sound w)
    (hb : Batch cfg w c sn records l) (hacked : acked = w.acked ∨ acked = c.seq :: w.acked)
    (hkind : c.directive.kind ≠ .wakeFromInbox ∨ ¬ c.directive.OfRun wf run) :
    WakePending wf run l acked := by
  rw [eq_appendAll_of_commit hb.commit]
  refine WakePending.appendAll ?_ _
  rcases hacked with rfl | rfl
  · exact h
  · exact h.ack hw hb.call hkind

/-- An event that is unseen after a batch was unseen before, or has come with it. -/
theorem Batch.unseen_cases {c : Call} {sn : StateSnapshot} {records : List Record} {l : Stream}
    {n : ℕ} (hw : Sound w) (hb : Batch cfg w c sn records l) (h : Unseen l wf n) :
    Unseen w.stream wf n ∨ c.directive.kind = .event ∧ c.directive.runInfo.wfID = wf := by
  rw [eq_appendAll_of_commit hb.commit] at h
  refine (unseen_of_appendAll h).imp_right ?_
  rintro ⟨m, hm, hsub⟩
  obtain ⟨hkind, hwf, -⟩ := hb.inbox_message hw hm hsub
  exact ⟨hkind, hwf⟩

/-- The batch of a call that is up to date loses no wake-up. -/
theorem Batch.woken {c : Call} {sn : StateSnapshot} {records : List Record} {l : Stream}
    {acked : List ℕ} (hw : Sound w) (hone : OneRun wf run w) (h : Woken wf run w.stream w.acked)
    (hb : Batch cfg w c sn records l) (hready : UpToDate wf run w.stream c.directive sn)
    (hle : ∀ n ∈ w.acked, n ≤ w.stream.length)
    (hacked : acked = w.acked ∨ acked = c.seq :: w.acked) : Woken wf run l acked := by
  -- everything that is acknowledged after the step is older than the batch
  have hle' : ∀ n ∈ acked, n ≤ w.stream.length := by
    obtain ⟨e, he, -, hseq⟩ := (hw.calls c hb.call).entry
    have hnew := hseq ▸ (Log.seq_mem_range he).2
    rcases hacked with rfl | rfl
    · exact hle
    · simpa using ⟨hnew, hle⟩
  intro s hs hwait hunseen
  have hunseen' := hb.unseen_cases hw hunseen
  cases hb.advance hw wf run with
  | other hrun hsame =>
    rcases hunseen' with hold | ⟨-, hwf⟩
    · exact (h s (hsame ▸ hs) hwait hold).of_batch hw hb hacked (.inr hrun)
    · exact absurd (hone.call hw hb.call hwf) hrun
  | start _ _ _ hbegun hnew =>
    cases hnew.symm.trans hs
    simp [hbegun.kind] at hwait
  | event hrun hkind _ hwake hrecords hsame =>
    have hs' : getRunState w.stream wf run = .ok (some s) := hsame ▸ hs
    by_cases hold : Unseen w.stream wf s.lastEventSeqID
    · exact (h s hs' hwait hold).of_batch hw hb hacked (.inl (by simp [hkind]))
    · rw [UpToDate, currentState_eq hs'] at hready
      have hsn := (hready hrun).1 hkind hwait hold
      refine hb.wakePending hle' (by simp [hrecords, hsn]) hwake.kind ?_
      exact ⟨hwake.runInfo ▸ hrun.1, hwake.runInfo ▸ hrun.2⟩
  | turn hrun _ hlive hturn hrecords hold hnew =>
    have hnotes := hturn.noted.allNotes
    have ht := hturn.transition
    have hunseen'' := hunseen'.resolve_right fun hev => ht.kind_ne.2 hev.1
    rw [UpToDate, currentState_eq hold] at hready
    cases hnew.symm.trans hs
    cases ht with
    | finish hf hterm =>
      cases hf
      simp only [Records.finished] at hwait
      simp [hwait, RunStateKind.isTerminal] at hterm
    | dispatch hd =>
      cases hd
      simp at hwait
    | suspend hsus hd hsrc =>
      obtain ⟨-, -, -, -, hwake⟩ := hsus
      have hevent := (hready hrun).2 hd hunseen''
      refine hb.wakePending hle' (by simp [hrecords, hevent]) hwake.kind ?_
      exact ⟨(hwake.runInfo ▸ hsrc.wfID).trans hrun.1, (hwake.runInfo ▸ hsrc.id).trans hrun.2⟩
    | pickUp hd =>
      exact (h _ hold hwait hunseen'').of_batch hw hb hacked (.inl (hd.kind_ne (by decide)))
    | park _ hstep => simp [hstep] at hwait

/-- The step lemma. -/
theorem Woken.step {w' : World} {a : Label} (hr : ReachableBy cfg (WakeGuard wf run) w)
    (h : Woken wf run w.stream w.acked) (hok : WakeGuard wf run w a)
    (hstep : step cfg w a = some w') :
    Woken wf run w'.stream w'.acked := by
  have hw := sound_of_reachableBy hr
  have hone : OneRun wf run w := oneRun_of_reachableBy hr fun _ _ hok => hok.1
  obtain ⟨-, hhandling, hguard⟩ := hok
  have heffect := effect_of_step hstep
  -- a message that is neither a run state nor in an inbox
  have outside {m : Msg} (hm : Outside m) : Woken wf run (w.stream.append m) w.acked := by
    intro s hs hwait hunseen
    rw [getRunState_append_outside hm] at hs
    rcases unseen_of_appendAll hunseen with hold | ⟨m', hm', hs'⟩
    · exact (h s hs hwait hold).appendAll _
    · rw [List.mem_singleton.mp hm'] at hs'
      cases hm <;> cases hs'
  cases heffect with
  | publish hd htaken => exact outside (.directive hd htaken)
  | saveRun _ htaken => exact outside (.runInfo htaken)
  | recordHistory hh htaken => exact outside (.history hh htaken)
  | @commit k c sn env failEnv ack records l hc hb =>
    have hready : UpToDate wf run w.stream c.directive sn :=
      hguard k rfl (c.directive, sn) (World.ready?_eq_some hc hb.phase)
    refine hb.woken hw hone h hready (acked_le_of_reachableBy hr) ?_
    split_ifs
    · exact .inr rfl
    · exact .inl rfl
  | @reject k c sn env failEnv ack acked hc hphase hacked =>
    rcases hacked with rfl | ⟨rfl, hdup⟩
    · exact h
    · intro s hs hwait hunseen
      refine (h s hs hwait hunseen).ack hw (List.mem_of_getElem? hc) (.inl fun hkind => ?_)
      exact not_duplicate_of_wake hw (List.mem_of_getElem? hc) hphase hkind env failEnv hdup
  | cancelTimer => cases hhandling
  | purgeNext => cases hhandling
  | fire =>
    intro s hs hwait hunseen
    rw [getRunState_purge_residue Subject.isResidue_of_beq_timer] at hs
    exact (h s hs hwait hunseen.of_purge).purge_timer ..
  | _ => exact h

/-- No lost wake-up. Let the calls of the run manager be interleaved in any way in which the
snapshots that decide about wake-ups are up to date at the commit. Then, at any time, a waiting
run with an event after its cursor has a wake-up that is published and not acknowledged. -/
theorem wake_pending_of_unseen (h : ReachableBy cfg (WakeGuard wf run) w) (s : RunState)
    (hs : getRunState w.stream wf run = .ok (some s)) (hwait : s.kind = .wait)
    (hunseen : Unseen w.stream wf s.lastEventSeqID) : WakePending wf run w.stream w.acked := by
  have hwoken : Woken wf run w.stream w.acked := by
    refine Reach.invariant (P := fun w => Woken wf run w.stream w.acked) h (fun s hs => ?_)
      fun _ _ _ hr hi hok hstep => hi.step hr hok hstep
    cases hs
  exact hwoken s hs hwait hunseen

/-- An event reaches a run that waits and knows it. -/
def Sample.notified : List Label := waiting ++ .publish (event "pay") :: handled 16

theorem wake_pending_notified :
    WakePending "wf" "r1" (Sample.worldBy (WakeGuard "wf" "r1") Sample.notified).stream
      (Sample.worldBy (WakeGuard "wf" "r1") Sample.notified).acked := by
  have hreach := Sample.reachableBy_worldBy (WakeGuard "wf" "r1") Sample.notified
  generalize hw : Sample.worldBy (WakeGuard "wf" "r1") Sample.notified = w at hreach ⊢
  obtain ⟨hs, hwait, hunseen⟩ :
      getRunState w.stream "wf" "r1" = .ok (some (currentState w.stream "wf" "r1")) ∧
        (currentState w.stream "wf" "r1").kind = .wait ∧
        Unseen w.stream "wf" (currentState w.stream "wf" "r1").lastEventSeqID := by
    rw [← hw]
    decide +kernel
  exact wake_pending_of_unseen hreach _ hs hwait hunseen

/-- An event and a wait are handled at the same time, each before the other has committed. -/
def Sample.crossed : List Label :=
  .publish start :: handled 1 ++
    [.publish (event "pay"), .publish (stepResult "done" .wait (.wait 0 "")),
      .deliver 9, .readState 0, .readHistory 0, .readEvent 0,
      .deliver 10, .readState 1, .readHistory 1, .readEvent 1,
      .finish 0 env env true, .finish 0 env env true]

/-- The run waits with an event in its inbox, nothing is under way, and no wake-up is left. -/
theorem wakeup_lost :
    (Sample.world Sample.crossed).calls = [] ∧
    (currentState (Sample.world Sample.crossed).stream "wf" "r1").kind = .wait ∧
    Unseen (Sample.world Sample.crossed).stream "wf"
      (currentState (Sample.world Sample.crossed).stream "wf" "r1").lastEventSeqID ∧
    ¬ WakePending "wf" "r1" (Sample.world Sample.crossed).stream
      (Sample.world Sample.crossed).acked := by
  decide +kernel

end Grctl
