import Grctl.Log.Consumer
import Grctl.Run.Admissible
import Grctl.System.Invariant

/-!
# What an acknowledged directive has come to

The queue delivers a directive until the run manager has processed it. A directive that is
acknowledged is never seen again, so it had better have had its effect. It was acknowledged by the
end of a call that handled it, from the snapshot that this call had read, and in one of three ways.
Its batch was committed. Or the stream took its batch for a duplicate, since it had seen one of the
identifiers in it. Or the directive could not be planned, and the failure of its run could not be
built either; then the description of the run that it carries has no start time. A call that panics
or whose batch is refused for another reason acknowledges nothing.

## Main definitions

* `Settled`: the three ways.
* `Acknowledged`: the step of a run that acknowledged a message.

## Main results

* `acked_directive_settled`: what is acknowledged was acknowledged so.
-/

namespace Grctl

open SubjectLog Lts

/-- How a call that had read the snapshot `sn` for the directive `d` ended when it was acknowledged,
with the stream `l` before the end; `w` is a world after it. -/
inductive Settled (cfg : Manager.Config) (env failEnv : Readings) (d : Directive)
    (sn : StateSnapshot) (l : Stream) (w : World) : Prop
  | committed {records : List Record} {l' : Stream}
      (hplanned : handleRecords cfg.defaults env failEnv d sn = .ok records)
      (hcommit : commit cfg.dup l records = .ok l')
      (hjournal : { directive := d, snapshot := sn, records := records, base := l.length } ∈
        w.journal)
      (hstored : records.flatMap Record.messages ⊆ w.stream.messages)
  | duplicate {records : List Record} {id : DirectiveID}
      (hplanned : handleRecords cfg.defaults env failEnv d sn = .ok records)
      (hcommit : commit cfg.dup l records = .error (.rejected .duplicate))
      (hid : id ∈ records.filterMap Record.msgID?) (hseen : l.seen id = true)
  | dropped {cause message : String} (hplan : plan cfg.defaults env d sn = .error (.error cause))
      (hfail : Records.buildUnexpectedFailure failEnv d cause sn.runState =
        .error (.error message))
      (hstarted : d.runInfo.startedAt = none)

/-- The step on the way to `w` that acknowledged the message `seq`: the end of a call that had read
a snapshot for its directive, when the message was not acknowledged yet. -/
inductive Acknowledged (cfg : Manager.Config) (w : World) (seq : ℕ) : Prop
  | finish {before after : World} {e : StreamEntry} {k : ℕ} {c : Call} {sn : StateSnapshot}
      {env failEnv : Readings} (hbefore : Reachable cfg before) (hunacked : seq ∉ before.acked)
      (he : e ∈ before.stream.entries) (hseq : e.seq = seq)
      (hm : e.toMessage = c.directive.message) (hc : before.calls[k]? = some c)
      (hcall : c.seq = seq) (hphase : c.phase = .ready sn)
      (hstep : step cfg before (.finish k env failEnv true) = some after)
      (hlater : Reach (step cfg) (fun _ _ => True) after w)
      (hsettled : Settled cfg env failEnv c.directive sn before.stream w)

section Settled

variable {cfg : Manager.Config} {w w' : World} {d : Directive} {env failEnv : Readings}
  {sn : StateSnapshot} {l : Stream}

theorem Settled.mono (h : Settled cfg env failEnv d sn l w) (hl : w.stream.Extends w'.stream)
    (hj : w.journal ⊆ w'.journal) : Settled cfg env failEnv d sn l w' := by
  cases h with
  | committed hplanned hcommit hjournal hstored =>
    exact .committed hplanned hcommit (hj hjournal)
      (List.Subset.trans hstored hl.messages_subset)
  | duplicate hplanned hcommit hid hseen => exact .duplicate hplanned hcommit hid hseen
  | dropped hplan hfail hstarted => exact .dropped hplan hfail hstarted

/-- A directive that cannot be planned, and whose failure cannot be built. -/
theorem settled_of_unplanned {message : String}
    (h : handleRecords cfg.defaults env failEnv d sn = .error (.error message)) :
    Settled cfg env failEnv d sn l w := by
  rw [handleRecords] at h
  split at h
  · rename_i cause hplan
    refine .dropped hplan h ?_
    -- a run whose description has a start time can be failed
    by_contra hstarted
    obtain ⟨t, ht⟩ := Option.ne_none_iff_exists'.mp hstarted
    obtain ⟨ri, e, hfail⟩ := Records.exists_failRun
      (d := Records.failDirective failEnv d _) failEnv sn.runState rfl ht
    rw [Records.buildUnexpectedFailure, hfail] at h
    cases h
  · rename_i hnot
    exact absurd h (hnot message)

/-- A planned batch is refused as a duplicate because of one of its identifiers. -/
theorem seen_of_duplicate (hdup : ∀ l id, cfg.dup l id = true → Log.seen l id = true)
    {records : List Record}
    (hplanned : handleRecords cfg.defaults env failEnv d sn = .ok records)
    (h : Grctl.commit cfg.dup l records = .error (.rejected .duplicate)) :
    ∃ id ∈ records.filterMap Record.msgID?, l.seen id = true := by
  have hrejected := commit_eq_rejected h
  have hne : records ≠ [] := by
    rintro rfl
    cases hrejected
  -- the identifiers of a batch differ, so that the one refused was there before the batch
  have hnodup := (checks_of_handleRecords hne hplanned).2.1.nodup
  rw [← filterMap_msgId] at hnodup ⊢
  exact Log.seen_of_commit_duplicate hdup hnodup hrejected

/-- The end of a call acknowledges its directive once it is settled. -/
theorem settled_of_finish (hdup : ∀ l id, cfg.dup l id = true → Log.seen l id = true) {k : ℕ}
    {c : Call} {ack : Bool} {seq : ℕ} (hnew : seq ∉ w.acked)
    (h : seq ∈ (w.finish cfg k c sn env failEnv ack).acked) :
    ack = true ∧ c.seq = seq ∧
      Settled cfg env failEnv c.directive sn w.stream
        (w.finish cfg k c sn env failEnv ack) := by
  unfold World.finish Manager.handleSnapshot at h ⊢
  cases hplanned : handleRecords cfg.defaults env failEnv c.directive sn with
  | error fault =>
    cases fault with
    | error message =>
      simp only [hplanned] at h ⊢
      split_ifs at h with hack
      · exact ⟨hack.2, ((List.mem_cons.mp h).resolve_right hnew).symm,
          settled_of_unplanned hplanned⟩
      · exact absurd h hnew
    | nilDereference => exact absurd (by simpa [hplanned, World.crash] using h) hnew
    | typeAssertion => exact absurd (by simpa [hplanned, World.crash] using h) hnew
  | ok records =>
    simp only [hplanned] at h ⊢
    split_ifs at h with hack
    · refine ⟨hack.2, ((List.mem_cons.mp h).resolve_right hnew).symm, ?_⟩
      rw [Manager.commit] at hack ⊢
      cases hcommit : Grctl.commit cfg.dup w.stream records with
      | ok l' =>
        have hne := (commit_eq_ok hcommit).2.1
        refine .committed hplanned hcommit (by simp [hne, World.commitOf]) ?_
        dsimp only
        rw [eq_appendAll_of_commit hcommit, Log.messages_appendAll]
        exact List.subset_append_right ..
      | error e =>
        by_cases he : e = .rejected .duplicate
        · subst he
          obtain ⟨id, hid, hseen⟩ := seen_of_duplicate hdup hplanned hcommit
          exact .duplicate hplanned hcommit hid hseen
        · rw [hcommit] at hack
          split at hack <;> simp_all
    · exact absurd h hnew

theorem exists_of_step_finish {k : ℕ} {ack : Bool}
    (h : step cfg w (.finish k env failEnv ack) = some w') :
    ∃ c sn, w.calls[k]? = some c ∧ c.phase = .ready sn ∧
      w' = w.finish cfg k c sn env failEnv ack := by
  simp only [step] at h
  split at h <;> cases h
  exact ⟨_, _, ‹_›, rfl, rfl⟩

/-- Only the end of a call acknowledges anything. -/
theorem acked_of_effect {a : Label} (h : Effect cfg w a w') (ha : a.finished? = none) :
    w'.acked = w.acked := by
  cases h with
  | commit => cases ha
  | reject => cases ha
  | _ => rfl

/-- A step that acknowledges a message. -/
theorem acknowledged_of_step (hdup : ∀ l id, cfg.dup l id = true → Log.seen l id = true)
    {a : Label} {seq : ℕ} (hw : Reachable cfg w) (hstep : step cfg w a = some w')
    (hnew : seq ∉ w.acked) (hacked : seq ∈ w'.acked) : Acknowledged cfg w' seq := by
  cases ha : a.finished? with
  | none => exact absurd (acked_of_effect (effect_of_step hstep) ha ▸ hacked) hnew
  | some k =>
    cases a <;> cases ha
    obtain ⟨c, sn, hc, hphase, rfl⟩ := exists_of_step_finish hstep
    obtain ⟨rfl, rfl, hsettled⟩ := settled_of_finish hdup hnew hacked
    obtain ⟨e, he, hm, hseq⟩ := ((sound_of_reachableBy hw).calls c (List.mem_of_getElem? hc)).entry
    exact .finish hw hnew he hseq hm hc rfl hphase hstep .init hsettled

theorem Acknowledged.step {a : Label} {seq : ℕ} (h : Acknowledged cfg w seq)
    (hstep : step cfg w a = some w') : Acknowledged cfg w' seq := by
  have hchange := (effect_of_step hstep).change
  obtain ⟨hbefore, hunacked, he, hseq, hm, hc, hcall, hphase, hfinish, hlater, hsettled⟩ := h
  exact .finish hbefore hunacked he hseq hm hc hcall hphase hfinish (hlater.step trivial hstep)
    (hsettled.mono hchange.extends hchange.journal_sublist.subset)

/-- Every acknowledged directive was acknowledged by the end of a call that handled it: with its
batch committed, with its batch refused because the stream had seen an identifier in it, or with
neither a plan nor a failure for it. -/
theorem acked_directive_settled (h : Reachable cfg w)
    (hdup : ∀ l id, cfg.dup l id = true → Log.seen l id = true) :
    ∀ seq ∈ w.acked, Acknowledged cfg w seq := by
  refine Reach.invariant (P := fun v => ∀ seq ∈ v.acked, Acknowledged cfg v seq) h
    (by simp [World.init]) fun v a v' hv ih _ hstep seq hseq => ?_
  by_cases hold : seq ∈ v.acked
  · exact (ih seq hold).step hstep
  · exact acknowledged_of_step hdup hv hstep hold hseq

end Settled

/-- The two directives that led to a wait have been acknowledged. -/
theorem acked_directive_settled_waiting :
    (Sample.world Sample.waiting).acked = [9, 1] ∧
      Acknowledged Sample.config (Sample.world Sample.waiting) 9 := by
  have hacked : (Sample.world Sample.waiting).acked = [9, 1] := by decide +kernel
  exact ⟨hacked, acked_directive_settled (Sample.reachable_world Sample.waiting) (fun _ _ h => h) 9
    (by simp [hacked])⟩

end Grctl
