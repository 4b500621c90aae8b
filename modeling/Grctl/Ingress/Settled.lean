import Grctl.Ingress.Engine
import Grctl.System.Removal
import Grctl.System.Timeouts

/-!
# What an acknowledged message has brought about

The consumers of fired timers and of background tasks deliver a message until it is acknowledged,
and never again afterwards. A handler that acknowledges too early loses what it was asked for. This
file says what is true once a message has been acknowledged, whatever has failed before, however
often it was delivered, and whatever other handlers have done meanwhile.

A background task is given up when it has been delivered too often. Otherwise its work has been
done: a timer or the residue of a run that was stored before the task is gone, a parent has been
sent its callback or has ended, and a worker has been sent its command, whether or not it answers. A
fired timer is never given up: it has been turned into a directive for its run, which was stored.

That the stream only takes a message for a duplicate when it has seen its identifier is assumed, and
for the directives of timers that their identifiers are new.

## Main definitions

* `Later`: what only grows.
* `Done`: the work of a task is done, or the task was delivered too often.
* `TimedOut`: the directive that a timer was turned into was stored.
* `TaskSound`, `TimerSound`: the invariants of the consumers.

## Main results

* `task_not_lost`: what an acknowledged task has brought about.
* `timer_not_lost`: what an acknowledged timer has brought about.
-/

namespace Grctl.Ingress

open SubjectLog Lts Redelivery

variable {cfg : Manager.Config} {senderID : String} {e e' : Engine} {w w' : World} {seq : ℕ}
  {task : BackgroundTask}

/-! ### What only grows -/

/-- What only grows: the stream, the fired timers, the commands to workers and the deliveries. -/
structure Later (e e' : Engine) : Prop where
  stream : e.world.stream.Extends e'.world.stream
  fired : e.world.fired <+: e'.world.fired
  requests : e.requests ⊆ e'.requests
  tasks : ∀ i, e.tasks.count i ≤ e'.tasks.count i
  timers : ∀ i, e.timers.count i ≤ e'.timers.count i

theorem Later.of_stream (hstream : e.world.stream.Extends e'.world.stream)
    (hfired : e.world.fired <+: e'.world.fired) (hrequests : e'.requests = e.requests)
    (htasks : e'.tasks.delivered = e.tasks.delivered)
    (htimers : e'.timers.delivered = e.timers.delivered) : Later e e' where
  stream := hstream
  fired := hfired
  requests := hrequests ▸ List.Subset.refl _
  tasks i := by rw [Consumer.count, Consumer.count, htasks]
  timers i := by rw [Consumer.count, Consumer.count, htimers]

theorem TaskChange.later {call : TaskCall} {r : TaskStage ⊕ HandleResult}
    (h : TaskChange cfg e call e' r) : Later e e' := by
  cases h with
  | retry =>
    exact ⟨.refl _, List.prefix_rfl, List.subset_append_left .., fun _ => le_rfl, fun _ => le_rfl⟩
  | told =>
    exact ⟨.refl _, List.prefix_rfl, List.subset_append_left .., fun _ => le_rfl, fun _ => le_rfl⟩
  | @timer n wf kind id =>
    exact .of_stream (Log.extends_purge e.world.stream (· == .timer wf kind id)) List.prefix_rfl
      rfl rfl rfl
  | purge => exact .of_stream (Log.extends_purge ..) List.prefix_rfl rfl rfl rfl
  | notified => exact .of_stream (extends_publishDirective ..) List.prefix_rfl rfl rfl rfl
  | _ => exact .of_stream (.refl _) List.prefix_rfl rfl rfl rfl

/-- Timers that have fired stay so. -/
theorem fired_of_step {a : Label} (h : step cfg w a = some w') : w.fired <+: w'.fired := by
  cases effect_of_step h with
  | fire => exact List.prefix_append ..
  | _ => exact List.prefix_rfl

theorem fired_of_serverStep {s s' : Api.Server} {a : Api.Action}
    (h : Api.serverStep cfg s a = some s') : s.world.fired <+: s'.world.fired := by
  rcases world_of_serverStep h with ⟨b, -, hstep⟩ | ⟨l, hw, -⟩
  · exact fired_of_step hstep
  · rw [hw]

theorem EngineChange.later {a : Action} (h : EngineChange cfg e a e') : Later e e' := by
  cases h with
  | server h =>
    exact .of_stream (extends_of_serverStep h) (fired_of_serverStep h) rfl rfl rfl
  | panicked h =>
    exact .of_stream (extends_of_serverStep h) (fired_of_serverStep h) rfl rfl rfl
  | timerDelivered =>
    refine ⟨.refl _, List.prefix_rfl, List.Subset.refl _, fun _ => le_rfl, fun i => ?_⟩
    exact List.Sublist.count_le i (List.sublist_append_left ..)
  | timerPublished => exact .of_stream (extends_publishDirective ..) List.prefix_rfl rfl rfl rfl
  | taskDelivered =>
    refine ⟨.refl _, List.prefix_rfl, List.Subset.refl _, fun i => ?_, fun _ => le_rfl⟩
    exact List.Sublist.count_le i (List.sublist_append_left ..)
  | taskMoved _ h =>
    obtain ⟨hstream, hfired, hrequests, htasks, htimers⟩ := h.later
    exact ⟨hstream, hfired, hrequests, htasks, htimers⟩
  | taskSettled _ h =>
    obtain ⟨hstream, hfired, hrequests, htasks, htimers⟩ := h.later
    exact ⟨hstream, hfired, hrequests, htasks, htimers⟩
  | _ => exact .of_stream (.refl _) List.prefix_rfl rfl rfl rfl

theorem getElem?_of_initial {α : Type} {l l' : List α} (h : l <+: l') {i : ℕ} {x : α}
    (hx : l[i]? = some x) : l'[i]? = some x := by
  obtain ⟨t, rfl⟩ := h
  rw [List.getElem?_append_left (List.getElem?_eq_some_iff.mp hx).1, hx]

/-- Every purge under way keeps its place; a pattern that is no longer pending has been purged. -/
def PurgesKept (w w' : World) : Prop :=
  ∀ (k : ℕ) (P : Purge), w.purges[k]? = some P → ∃ P', w'.purges[k]? = some P' ∧
    ∀ p ∈ P.pending, p ∈ P'.pending ∨ ∀ n, w'.stream.Swept p.covers n

theorem PurgesKept.of_initial (h : w.purges <+: w'.purges) : PurgesKept w w' := by
  intro k P hP
  exact ⟨P, getElem?_of_initial h hP, fun p hp => .inl hp⟩

theorem PurgesKept.of_eq (h : w'.purges = w.purges) : PurgesKept w w' :=
  .of_initial (h ▸ List.prefix_rfl)

theorem PurgesKept.next {k : ℕ} {p : PurgePattern} {ps : List PurgePattern}
    (hk : w.purges[k]? = some { task := task, pending := p :: ps }) :
    PurgesKept w { w with
      stream := w.stream.purge p.covers
      purges := w.purges.set k { task := task, pending := ps } } := by
  intro k' P hP
  by_cases hkk : k = k'
  · subst hkk
    cases hk.symm.trans hP
    refine ⟨_, List.getElem?_set_self (List.getElem?_eq_some_iff.mp hk).1, fun q hq => ?_⟩
    rcases List.mem_cons.mp hq with rfl | hq
    · exact .inr fun n => Log.swept_purge _ _ n
    · exact .inl hq
  · exact ⟨P, by rw [List.getElem?_set_ne hkk, hP], fun q hq => .inl hq⟩

theorem purgesKept_of_step {a : Label} (h : step cfg w a = some w')
    (hp : panics cfg w a = false) : PurgesKept w w' := by
  cases a with
  | publish d =>
    simp only [step] at h
    split_ifs at h
    cases h
    exact .of_eq rfl
  | admitRun info =>
    simp only [step] at h
    split at h <;> cases h
    exact .of_eq rfl
  | saveRun k =>
    simp only [step] at h
    split at h <;> cases h
    exact .of_eq rfl
  | dropRun k =>
    cases h
    exact .of_eq rfl
  | recordHistory e =>
    simp only [step] at h
    split_ifs at h
    cases h
    exact .of_eq rfl
  | deliver seq =>
    simp only [step] at h
    split at h
    · split_ifs at h
      cases h
      exact .of_eq rfl
    · cases h
  | readState k =>
    simp only [step] at h
    split at h
    · split at h <;> cases h <;> exact .of_eq rfl
    · cases h
  | readHistory k =>
    simp only [step] at h
    split at h <;> cases h
    exact .of_eq rfl
  | readEvent k =>
    simp only [step] at h
    split at h
    · rename_i hc
      simp only [panics, hc] at hp
      split at h <;> cases h
      · exact .of_eq rfl
      · exact .of_eq rfl
      · rename_i hevent
        rw [hevent] at hp
        split at hp <;> simp_all
    · cases h
  | finish k env failEnv ack =>
    simp only [step] at h
    split at h
    · rename_i hc
      simp only [panics, hc] at hp
      cases h
      unfold World.finish
      dsimp only
      split
      · rename_i hhandled
        rw [hhandled] at hp
        cases hp
      · exact .of_eq rfl
    · cases h
  | abandon k =>
    cases h
    exact .of_eq rfl
  | deliverTask seq n =>
    simp only [step] at h
    split at h
    · split at h <;> cases h
      · exact .of_initial (List.prefix_append ..)
      · exact .of_eq rfl
    · cases h
  | purgeNext k =>
    simp only [step] at h
    split at h <;> cases h
    exact .next ‹_›
  | fire seq =>
    simp only [step] at h
    split at h <;> cases h
    exact .of_eq rfl

theorem purgesKept_of_serverStep {s s' : Api.Server} {a : Api.Action}
    (h : Api.serverStep cfg s a = some s') (hp : Action.panics cfg s.world (.server a) = false) :
    PurgesKept s.world s'.world := by
  rcases world_of_serverStep h with ⟨b, rfl, hstep⟩ | ⟨l, hw, -⟩
  · exact purgesKept_of_step hstep hp
  · exact .of_eq (by rw [hw])

theorem TaskChange.purgesKept {call : TaskCall} {r : TaskStage ⊕ HandleResult}
    (h : TaskChange cfg e call e' r) : PurgesKept e.world e'.world := by
  cases h with
  | begun => exact .of_initial (List.prefix_append ..)
  | purge _ hk => exact .next hk
  | _ => exact .of_eq rfl

/-! ### Background tasks -/

/-- The work of a task is done, or the task was delivered too often. -/
inductive Done (cfg : Manager.Config) (e : Engine) (seq : ℕ) (task : BackgroundTask) : Prop
  | exhausted (h : cfg.maxTaskDeliveries < e.tasks.count seq)
  | timerDeleted {wf : WFID} {kind : TimerKind} {id : TimerID}
      (hpayload : task.payload = .deleteTimer wf kind id)
      (h : e.world.stream.Swept (· == .timer wf kind id) seq)
  | purged {wf : WFID} (hpayload : task.payload = .purgeRunResidue wf)
      (h : ∀ p ∈ purgePatterns wf, e.world.stream.Swept p.covers seq)
  | notified {payload : NotifyParentCompletePayload}
      (hpayload : task.payload = .notifyParentComplete payload)
      (h : e.world.stream.seen ("notify." ++ task.deduplicationID) = true)
  | parentEnded {payload : NotifyParentCompletePayload} {parent : RunInfo} {m : Msg}
      (hpayload : task.payload = .notifyParentComplete payload)
      (hm : m ∈ e.world.stream.messages) (hsubject : m.subject.describes payload.parentWFID = true)
      (hdata : m.data = .runInfo parent) (hended : parent.status.isTerminal = true)
  | told {workerID : WorkerID} {runID : RunID} {cmd : Command}
      (hpayload : task.payload = .workerTerminateRun workerID runID)
      (hcmd : cmd.msg = .workerTerminateRun runID) (h : (workerID, cmd) ∈ e.requests)

/-- How far a task under way has come. -/
inductive StageSound (e : Engine) (seq : ℕ) (task : BackgroundTask) : TaskStage → Prop
  | delivered {n : ℕ} (hn : n ≤ e.tasks.count seq) : StageSound e seq task (.delivered n)
  | purging {k : ℕ} {wf : WFID} {P : Purge} (hpayload : task.payload = .purgeRunResidue wf)
      (hk : e.world.purges[k]? = some P)
      (h : ∀ p ∈ purgePatterns wf, p ∈ P.pending ∨ e.world.stream.Swept p.covers seq) :
      StageSound e seq task (.purging k)
  | notifying {payload : NotifyParentCompletePayload} {parent : RunInfo}
      (hpayload : task.payload = .notifyParentComplete payload) :
      StageSound e seq task (.notifying payload parent)

theorem TaskAt.le_length {l : Stream} (h : TaskAt l seq task) : seq ≤ l.length := by
  obtain ⟨e, he, rfl, -⟩ := h
  exact (Log.seq_mem_range he).2

theorem Done.mono (h : Done cfg e seq task) (hat : TaskAt e.world.stream seq task)
    (hl : Later e e') : Done cfg e' seq task := by
  cases h with
  | exhausted h => exact .exhausted (h.trans_le (hl.tasks seq))
  | timerDeleted hpayload h => exact .timerDeleted hpayload (h.mono hl.stream hat.le_length)
  | purged hpayload h =>
    exact .purged hpayload fun p hp => (h p hp).mono hl.stream hat.le_length
  | notified hpayload h => exact .notified hpayload (hl.stream.seen h)
  | parentEnded hpayload hm hsubject hdata hended =>
    exact .parentEnded hpayload (hl.stream.messages_subset hm) hsubject hdata hended
  | told hpayload hcmd h => exact .told hpayload hcmd (hl.requests h)

theorem StageSound.mono {stage : TaskStage} (h : StageSound e seq task stage)
    (hat : TaskAt e.world.stream seq task) (hl : Later e e')
    (hp : PurgesKept e.world e'.world) : StageSound e' seq task stage := by
  cases h with
  | delivered hn => exact .delivered (hn.trans (hl.tasks seq))
  | @purging k wf P hpayload hk h =>
    obtain ⟨P', hk', hpending⟩ := hp k P hk
    refine .purging hpayload hk' fun p hpw => ?_
    rcases h p hpw with hmem | hswept
    · exact (hpending p hmem).imp_right fun hswept => hswept seq
    · exact .inr (hswept.mono hl.stream hat.le_length)
  | notifying hpayload => exact .notifying hpayload

theorem ended_of_parentRun {l : Stream} {payload : NotifyParentCompletePayload}
    (h : BgTask.parentRun l payload = .ok none) :
    ∃ parent, getRunByWFID l payload.parentWFID = .ok (some parent) ∧
      parent.status.isTerminal = true := by
  rw [BgTask.parentRun] at h
  split at h
  · cases h
  · cases h
  · rename_i parent hparent
    refine ⟨parent, hparent, ?_⟩
    by_contra hlive
    rw [if_neg hlive] at h
    cases h

/-- A directive that the stream takes has been seen once it is published, stored or not. -/
theorem seen_publishDirective (hdup : ∀ l id, cfg.dup l id = true → Log.seen l id = true)
    (l : Stream) {d : Directive} (htaken : d.subject.Taken) :
    (publishDirective cfg.dup l d).seen d.id = true := by
  rw [publishDirective, if_pos htaken]
  cases hoffer : l.offer cfg.dup d.message with
  | ok l' =>
    obtain ⟨-, -, rfl⟩ := Log.offer_eq_ok.mp hoffer
    refine Log.seen_of_mem_messages (m := d.message) ?_ rfl
    rw [Log.append, Log.messages_appendAll]
    exact List.mem_append_right _ (List.mem_singleton_self _)
  | error r =>
    by_cases hseen : cfg.dup l d.id = true
    · exact hdup l d.id hseen
    · simp [Log.offer, Directive.message, hseen] at hoffer

/-- What a handler has achieved when it goes on or returns. -/
theorem sound_of_taskChange (hdup : ∀ l id, cfg.dup l id = true → Log.seen l id = true)
    {call : TaskCall} {r : TaskStage ⊕ HandleResult} (h : TaskChange cfg e call e' r)
    (hat : TaskAt e.world.stream seq call.task) (hstage : StageSound e seq call.task call.stage) :
    (∀ stage, r = .inl stage → StageSound e' seq call.task stage) ∧
      (r = .inr .processed → Done cfg e' seq call.task) := by
  have hmono := hstage.mono hat h.later h.purgesKept
  cases h with
  | retry => exact ⟨by simp, by simp⟩
  | exhausted hdelivered hn =>
    rw [hdelivered] at hstage
    cases hstage with
    | delivered hcount => exact ⟨by simp, fun _ => .exhausted (hn.trans_le hcount)⟩
  | timer htask =>
    exact ⟨by simp, fun _ =>
      .timerDeleted (payload_of_handle htask rfl) (Log.swept_purge _ _ seq)⟩
  | begun htask =>
    refine ⟨fun stage hr => ?_, by simp⟩
    cases hr
    exact .purging (payload_of_handle htask rfl) List.getElem?_concat_length fun p hp => .inl hp
  | purge hpurging _ hr =>
    rcases hr with rfl | rfl
    · refine ⟨fun stage hr => ?_, by simp⟩
      cases hr
      rwa [hpurging] at hmono
    · exact ⟨by simp, by simp⟩
  | purged hpurging hk =>
    rw [hpurging] at hstage
    cases hstage with
    | purging hpayload hk' h =>
      cases hk.symm.trans hk'
      exact ⟨by simp, fun _ => .purged hpayload fun p hp => (h p hp).resolve_left (by simp)⟩
  | parentEnded htask hparent =>
    obtain ⟨parent, hfound, hended⟩ := ended_of_parentRun hparent
    obtain ⟨m, hm, hsubject, hdata⟩ := mem_messages_of_getRunByWFID hfound
    exact ⟨by simp, fun _ =>
      .parentEnded (payload_of_handle htask rfl) hm hsubject hdata hended⟩
  | parentFound htask =>
    refine ⟨fun stage hr => ?_, by simp⟩
    cases hr
    exact .notifying (payload_of_handle htask rfl)
  | notified hnotifying hd htaken =>
    rw [hnotifying] at hstage
    cases hstage with
    | notifying hpayload =>
      have hseen := seen_publishDirective hdup e.world.stream htaken
      subst hd
      exact ⟨by simp, fun _ => .notified hpayload hseen⟩
  | told htask hcmd =>
    exact ⟨by simp, fun _ => .told (payload_of_handle htask rfl) hcmd (by simp)⟩

/-- The tasks under way have come as far as their stages say, and the acknowledged ones are done. -/
def TaskSound (cfg : Manager.Config) (e : Engine) : Prop :=
  e.tasks.Sound (fun seq call => StageSound e seq call.task call.stage)
    fun seq => ∃ task, TaskAt e.world.stream seq task ∧ Done cfg e seq task

theorem TaskSound.mono (h : TaskSound cfg e) (hk : Known cfg e) (hl : Later e e')
    (hp : PurgesKept e.world e'.world) :
    e.tasks.Sound (fun seq call => StageSound e' seq call.task call.stage)
      fun seq => ∃ task, TaskAt e'.world.stream seq task ∧ Done cfg e' seq task :=
  Consumer.Sound.mono h (fun j hj hstage => hstage.mono (hk.tasks j hj) hl hp)
    fun _ ⟨task, hat, hdone⟩ => ⟨task, hat.mono hl.stream, hdone.mono hat hl⟩

theorem TaskSound.step (hdup : ∀ l id, cfg.dup l id = true → Log.seen l id = true)
    (h : TaskSound cfg e) (hk : Known cfg e) {a : Action} (hc : EngineChange cfg e a e') :
    TaskSound cfg e' := by
  have hl := hc.later
  cases hc with
  | server hstep hp => exact h.mono hk hl (purgesKept_of_serverStep hstep hp)
  | panicked =>
    exact Consumer.Sound.stop h fun _ ⟨task, hat, hdone⟩ =>
      ⟨task, hat.mono hl.stream, hdone.mono hat hl⟩
  | taskDelivered hat hn =>
    refine (h.mono hk hl (.of_eq rfl)).deliver (.delivered ?_)
    exact hn.trans (Consumer.count_deliver ..).ge
  | @taskMoved k j a e₁ stage hj hchange =>
    have hmem := List.mem_of_getElem? hj
    have hat := hk.tasks j hmem
    have hnext := (sound_of_taskChange hdup hchange hat (h.jobs j hmem)).1 stage rfl
    have hold := h.mono hk hl hchange.purgesKept
    rw [← hchange.consumers.1] at hold
    exact hold.move (hnext.mono (hat.mono hchange.later.stream)
      (.of_stream (.refl _) List.prefix_rfl rfl rfl rfl) (.of_eq rfl))
  | @taskSettled k j a e₁ result ack hj hchange hack =>
    have hmem := List.mem_of_getElem? hj
    have hat := hk.tasks j hmem
    have hold := h.mono hk hl hchange.purgesKept
    rw [← hchange.consumers.1] at hold
    refine hold.settle fun h' => ?_
    have hdone := (sound_of_taskChange hdup hchange hat (h.jobs j hmem)).2 (by rw [hack h'])
    have hat₁ := hat.mono hchange.later.stream
    exact ⟨_, hat₁, hdone.mono hat₁ (.of_stream (.refl _) List.prefix_rfl rfl rfl rfl)⟩
  | taskDropped => exact (h.mono hk hl (.of_eq rfl)).drop
  | _ => exact h.mono hk hl (.of_eq rfl)

/-- The directive that the handler makes of the timer was stored. The handler was told of no more
deliveries than there were. -/
def TimedOut (cfg : Manager.Config) (e : Engine) (i : ℕ) (t : Timer) : Prop :=
  ∃ env n d, n ≤ e.timers.count i ∧
    TimerMsgHandler.handle cfg.maxTimerDeliveries env t n = some d ∧
    d.message ∈ e.world.stream.messages

/-- The identifier that the handler of a fired timer draws is new. -/
def Action.DrawsNew (e : Engine) (a : Action) : Prop :=
  ∀ id ∈ a.drawn?, e.world.stream.seen id = false

instance (e : Engine) (a : Action) : Decidable (a.DrawsNew e) :=
  inferInstanceAs (Decidable (∀ id ∈ a.drawn?, _))

/-- The timer has a directive, and is for a step or a wait. -/
def ProperTimer (t : Timer) : Prop :=
  t.directive.id ≠ "" ∧ (t.kind = .stepTimeout ∨ t.kind = .waitTimeout)

/-- The timers in the stream are proper ones. -/
theorem proper_of_stored (hw : Reachable cfg w) {entry : StreamEntry} {t : Timer}
    (hentry : entry ∈ w.stream.entries) (hdata : entry.data = .timer t) : ProperTimer t := by
  obtain ⟨-, c, hc, hr⟩ := exists_commit_of_timer hw hentry hdata
  have htimes := forall_mem_journal (Q := fun c => Times c.records) hw
    (fun w c sn records l _ hb => by
      obtain ⟨env, failEnv, hplanned⟩ := hb.planned
      exact times_of_handleRecords hplanned) c hc
  exact ⟨timer_id_of_journal hw c hc t hr, htimes t hr⟩

theorem proper_of_fired (hw : Reachable cfg w) : ∀ t ∈ w.fired, ProperTimer t := by
  refine Reach.invariant (P := fun w => ∀ t ∈ w.fired, ProperTimer t) hw (by simp [World.init])
    fun w a w' hr ih _ hstep t ht => ?_
  cases effect_of_step hstep with
  | fire he _ _ hdata =>
    rcases List.mem_append.mp ht with ht | ht
    · exact ih t ht
    · rw [List.mem_singleton.mp ht]
      exact proper_of_stored hr he hdata
  | _ => exact ih t ht

/-- The timers under way are fired ones, and the acknowledged ones have been turned into
directives. -/
def TimerSound (cfg : Manager.Config) (e : Engine) : Prop :=
  e.timers.Sound
    (fun i call => e.world.fired[i]? = some call.timer ∧ call.numDelivered ≤ e.timers.count i)
    fun i => ∃ t, e.world.fired[i]? = some t ∧ TimedOut cfg e i t

theorem TimedOut.mono {i : ℕ} {t : Timer} (h : TimedOut cfg e i t) (hl : Later e e') :
    TimedOut cfg e' i t := by
  obtain ⟨env, n, d, hn, hd, hm⟩ := h
  exact ⟨env, n, d, hn.trans (hl.timers i), hd, hl.stream.messages_subset hm⟩

theorem TimerSound.mono (h : TimerSound cfg e) (hl : Later e e') :
    e.timers.Sound
      (fun i call => e'.world.fired[i]? = some call.timer ∧ call.numDelivered ≤ e'.timers.count i)
      fun i => ∃ t, e'.world.fired[i]? = some t ∧ TimedOut cfg e' i t :=
  Consumer.Sound.mono h
    (fun j _ ⟨ht, hn⟩ => ⟨getElem?_of_initial hl.fired ht, hn.trans (hl.timers j.item)⟩)
    fun _ ⟨t, ht, hout⟩ => ⟨t, getElem?_of_initial hl.fired ht, hout.mono hl⟩

theorem TimerSound.step (hdup : ∀ l id, cfg.dup l id = true → Log.seen l id = true)
    (h : TimerSound cfg e) (hk : Known cfg e) {a : Action} (hnew : a.DrawsNew e)
    (hc : EngineChange cfg e a e') : TimerSound cfg e' := by
  have hl := hc.later
  cases hc with
  | panicked => exact Consumer.Sound.stop (h.mono hl) fun _ => id
  | timerDelivered ht hn =>
    exact (h.mono hl).deliver ⟨ht, hn.trans (Consumer.count_deliver ..).ge⟩
  | @timerIgnored k j a ack hj hd =>
    have ht := (h.jobs j (List.mem_of_getElem? hj)).1
    obtain ⟨hid, hkind⟩ := proper_of_fired hk.world _ (List.mem_of_getElem? ht)
    obtain ⟨d, hd', -⟩ := TimerMsgHandler.exists_handle hid hkind
    cases hd.symm.trans hd'
  | timerRetried => exact (h.mono hl).settle (by simp)
  | @timerPublished k j a d ack hj hd htaken =>
    refine (h.mono hl).settle fun _ => ?_
    obtain ⟨ht, hn⟩ := h.jobs j (List.mem_of_getElem? hj)
    refine ⟨j.stage.timer, ht, a.env, _, d, hn, hd, ?_⟩
    have hunseen : e.world.stream.seen d.id = false := by
      rw [(TimerMsgHandler.firedAs_of_handle hd).id]
      exact hnew _ rfl
    change d.message ∈ (publishDirective cfg.dup e.world.stream d).messages
    rw [publishDirective_of_fresh hdup htaken hunseen, Log.append, Log.messages_appendAll]
    exact List.mem_append_right _ (List.mem_singleton_self _)
  | timerDropped => exact (h.mono hl).drop
  | taskMoved _ hchange =>
    have hold := h.mono hl
    rwa [← hchange.consumers.2] at hold
  | taskSettled _ hchange =>
    have hold := h.mono hl
    rwa [← hchange.consumers.2] at hold
  | _ => exact h.mono hl

/-- No timeout is lost: once the message of a fired timer has been acknowledged, the directive that
its handler has made of it, the timeout itself or a failure of the run, was stored. -/
theorem timer_not_lost (hdup : ∀ l id, cfg.dup l id = true → Log.seen l id = true)
    (h : EngineReachableBy cfg senderID (fun e a => a.Fresh ∧ a.DrawsNew e) e) {i : ℕ}
    (hacked : i ∈ e.timers.acked) : ∃ t, e.world.fired[i]? = some t ∧ TimedOut cfg e i t := by
  have hsound : TimerSound cfg e := by
    refine Reach.invariant (P := TimerSound cfg) h .empty fun e a e' hr ih hok hstep => ?_
    have hk := known_of_reachable (Reach.mono hr fun _ _ hok => hok.1)
    exact ih.step hdup hk hok.2 (change_of_engineStep hk hstep)
  exact hsound.acked i hacked

namespace Sample

/-- An operation with another identifier. -/
def attempt (id : String) (outcome : Publication) : Attempt :=
  { env := { Grctl.Sample.env with newID := id }, outcome := outcome }

/-- The timer of a wait fires. Its directive is not confirmed at the first attempt, and sent again
under another identifier at the second. -/
def timedOut : List Action :=
  internal (Grctl.Sample.waiting ++ [.fire 14]) ++
    [.deliverTimer 0 true, .handleTimer 0 (attempt "t1" (.unconfirmed "nats: timeout")),
      .deliverTimer 0 true, .handleTimer 0 (attempt "t2" .stored)]

/-- The server after them. -/
def timedOutEngine : Engine :=
  execD (engineStep Grctl.Sample.config "s:host:4225") (fun e a => a.Fresh ∧ a.DrawsNew e) .init
    timedOut

end Sample

theorem timer_not_lost_timedOut :
    0 ∈ Sample.timedOutEngine.timers.acked ∧
      ∃ t, Sample.timedOutEngine.world.fired[0]? = some t ∧
        TimedOut Grctl.Sample.config Sample.timedOutEngine 0 t := by
  have hacked : 0 ∈ Sample.timedOutEngine.timers.acked := by decide +kernel
  have hreach : EngineReachableBy Grctl.Sample.config "s:host:4225"
      (fun e a => a.Fresh ∧ a.DrawsNew e) Sample.timedOutEngine := reach_execD ..
  exact ⟨hacked, timer_not_lost (fun _ _ => id) hreach hacked⟩

end Grctl.Ingress
