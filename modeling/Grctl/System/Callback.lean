import Grctl.Run.BgTask
import Grctl.Run.Closing
import Grctl.System.Described

/-!
# Calling a parent back

When a child run ends, its last batch carries a task that notifies the parent. The task is delivered
at least once, by `handleNotifyParentComplete`: it looks the parent up by its workflow identifier
and publishes an event to the run it finds. The two do not happen at one instant, and deliveries of
the same task may overlap. This file adds these deliveries to the system.

Two questions are answered. How often is a parent called back? Once, because a run ends in one
batch, a batch has one such task, and the identifier of the event is derived from the one of the
task, so that the stream drops a second publication. And which run is called back? The latest one of
the workflow, which need not be the one that started the child.

## Main definitions

* `CallbackWorld`, `callbackStep`: the system with the deliveries of notifications.
* `CallbackWorld.callbacksFor`: the callbacks of a child run that were stored.

## Main results

* `reachable_world`: the wider system only takes steps of the system.
* `parent_called_back_once`: at most one callback for a child run, with the outcome of its last
  batch.
* `callback_to_starter_iff`: when the callback goes to the run that started the child.
* `callback_to_later_run`: it can go to a later run of the same workflow.
-/

namespace Grctl

open SubjectLog Lts

/-- A delivery of a notification that has found the parent and has not published yet. -/
structure Notice where
  task : BackgroundTask
  payload : NotifyParentCompletePayload
  parent : RunInfo
  deriving DecidableEq, Repr

/-- A callback that was stored, with the task it goes back to. -/
structure Callback where
  task : BackgroundTask
  directive : Directive
  deriving DecidableEq, Repr

/-- The world with the deliveries of notifications. All callbacks that were ever stored are listed,
also those that have been purged since. -/
structure CallbackWorld where
  world : World
  notices : List Notice := []
  callbacks : List Callback := []

/-- The steps of the wider system; `forget` is a delivery that gets lost. -/
inductive CallbackLabel
  | other (a : Label)
  | lookUp (seq numDelivered : ℕ)
  | call (k : ℕ) (now : Time)
  | forget (k : ℕ)
  deriving DecidableEq, Repr

/-- One step of the wider system. -/
def callbackStep (cfg : Manager.Config) (s : CallbackWorld) : CallbackLabel → Option CallbackWorld
  | .other a => (step cfg s.world a).map fun w => { s with world := w }
  | .lookUp seq numDelivered =>
    match s.world.entryAt seq with
    | some { subject := .bgTask, data := .bgTask task, .. } =>
      match BgTask.handle cfg.maxTaskDeliveries task numDelivered with
      | .notifyParent payload =>
        match BgTask.parentRun s.world.stream payload with
        | .ok (some parent) =>
          some { s with notices := s.notices ++ [{ task, payload, parent }] }
        | _ => some s
      | _ => none
    | _ => none
  | .call k now =>
    match s.notices[k]? with
    | some n =>
      let d := BgTask.parentDirective now n.task n.payload n.parent
      if d.subject.Taken then
        match s.world.stream.offer cfg.dup d.message with
        | .ok l =>
          some
            { world := { s.world with stream := l }
              notices := s.notices.eraseIdx k
              callbacks := s.callbacks ++ [{ task := n.task, directive := d }] }
        | .error _ => some { s with notices := s.notices.eraseIdx k }
      else some { s with notices := s.notices.eraseIdx k }
    | none => none
  | .forget k => some { s with notices := s.notices.eraseIdx k }

/-- The states of all runs of the wider system. -/
def CallbackReachable (cfg : Manager.Config) : CallbackWorld → Prop :=
  Reach (callbackStep cfg) (fun _ _ => True) { world := .init }

/-- The task is in a batch of the run. -/
def Commit.hands (wf : WFID) (run : RunID) (task : BackgroundTask) (c : Commit) : Prop :=
  c.directive.OfRun wf run ∧ Record.backgroundTask task ∈ c.records

instance (wf : WFID) (run : RunID) (task : BackgroundTask) (c : Commit) :
    Decidable (c.hands wf run task) := inferInstanceAs (Decidable (_ ∧ _))

/-- The callbacks that were stored for the child run `run` of `wf`. -/
def CallbackWorld.callbacksFor (s : CallbackWorld) (wf : WFID) (run : RunID) : List Callback :=
  s.callbacks.filter fun cb => ∃ c ∈ s.world.journal, c.hands wf run cb.task

/-! ### The steps -/

/-- What a step of the wider system can do. -/
inductive CallbackChange (cfg : Manager.Config) (s : CallbackWorld) : CallbackWorld → Prop
  | other {a : Label} {w : World} (h : step cfg s.world a = some w) :
      CallbackChange cfg s { s with world := w }
  | same : CallbackChange cfg s s
  | found {task : BackgroundTask} {payload : NotifyParentCompletePayload} {parent : RunInfo}
      {e : StreamEntry} (he : e ∈ s.world.stream.entries) (hdata : e.data = .bgTask task)
      (hpayload : task.payload = .notifyParentComplete payload) :
      CallbackChange cfg s { s with notices := s.notices ++ [{ task, payload, parent }] }
  | called {k : ℕ} {n : Notice} {d : Directive} {now : Time} (hn : n ∈ s.notices)
      (hd : d = BgTask.parentDirective now n.task n.payload n.parent)
      (htaken : d.subject.Taken) (hnew : cfg.dup s.world.stream d.id = false) :
      CallbackChange cfg s
        { world := { s.world with stream := s.world.stream.append d.message }
          notices := s.notices.eraseIdx k
          callbacks := s.callbacks ++ [{ task := n.task, directive := d }] }
  | lost {k : ℕ} : CallbackChange cfg s { s with notices := s.notices.eraseIdx k }

theorem BgTask.payload_of_handle {m n : ℕ} {task : BackgroundTask}
    {payload : NotifyParentCompletePayload} (h : handle m task n = .notifyParent payload) :
    task.payload = .notifyParentComplete payload := by
  rw [handle] at h
  split_ifs at h
  split at h <;> cases h
  assumption

theorem callbackChange_of_step {cfg : Manager.Config} {s s' : CallbackWorld} {a : CallbackLabel}
    (h : callbackStep cfg s a = some s') : CallbackChange cfg s s' := by
  cases a with
  | other a =>
    obtain ⟨w, hw, rfl⟩ := Option.map_eq_some_iff.mp h
    exact .other hw
  | lookUp seq n =>
    simp only [callbackStep] at h
    split at h
    · rename_i he
      obtain ⟨hmem, -⟩ := mem_of_entryAt he
      split at h
      · rename_i hhandle
        split at h <;> cases h
        · exact .found hmem rfl (BgTask.payload_of_handle hhandle)
        · exact .same
      · cases h
    · cases h
  | call k now =>
    simp only [callbackStep] at h
    split at h
    · rename_i n hk
      split_ifs at h with htaken
      · split at h <;> cases h
        · rename_i l hoffer
          obtain ⟨hnew, -, rfl⟩ := Log.offer_eq_ok.mp hoffer
          exact .called (List.mem_of_getElem? hk) rfl htaken hnew
        · exact .lost
      · cases h
        exact .lost
    · cases h
  | forget k =>
    cases h
    exact .lost

/-- A callback is published like any other directive: the wider system takes steps of the
system. -/
theorem reachable_world {cfg : Manager.Config} {s : CallbackWorld} (h : CallbackReachable cfg s) :
    Reachable cfg s.world := by
  refine Reach.image (f := CallbackWorld.world) h fun s a s' _ hstep => ?_
  cases callbackChange_of_step hstep with
  | @other a w hw => exact .inr ⟨a, trivial, hw⟩
  | @called _ n d now _ hd htaken hnew =>
    refine .inr ⟨.publish d, trivial, ?_⟩
    have hdecoded : d.Decoded := by
      subst hd
      exact ⟨by simp [BgTask.parentDirective], rfl⟩
    have hoffer : s.world.stream.offer cfg.dup d.message = .ok _ :=
      Log.offer_eq_ok.mpr ⟨hnew, rfl, rfl⟩
    rw [step, if_pos hdecoded, publishDirective, if_pos htaken, hoffer]
  | _ => exact .inl rfl

/-! ### Callbacks go back to tasks of the journal -/

/-- The task is a notification with this payload, from a committed batch. -/
def Announced (w : World) (task : BackgroundTask) (payload : NotifyParentCompletePayload) : Prop :=
  task.payload = .notifyParentComplete payload ∧
    ∃ c ∈ w.journal, Record.backgroundTask task ∈ c.records

theorem Record.eq_of_mem_messages_bgTask {r : Record} {m : Msg} {task : BackgroundTask}
    (hm : m ∈ r.messages) (hdata : m.data = .bgTask task) : r = .backgroundTask task := by
  cases r <;> grind [messages, Directive.message]

theorem exists_commit_of_bgTask {cfg : Manager.Config} {w : World} (h : Reachable cfg w)
    {e : StreamEntry} {task : BackgroundTask} (he : e ∈ w.stream.entries)
    (hdata : e.data = .bgTask task) :
    ∃ c ∈ w.journal, Record.backgroundTask task ∈ c.records := by
  rcases mem_journal_of_mem_messages h _ (List.mem_map_of_mem he) with hout | ⟨c, hc, hm⟩
  · cases hout' : e.toMessage
    rw [hout'] at hout hdata
    cases hout <;> cases hdata
  · obtain ⟨r, hr, hm⟩ := List.mem_flatMap.mp hm
    exact ⟨c, hc, Record.eq_of_mem_messages_bgTask hm hdata ▸ hr⟩

/-- What holds of the notices and the callbacks in every reachable state. -/
structure CallbackSound (s : CallbackWorld) : Prop where
  notices : ∀ n ∈ s.notices, Announced s.world n.task n.payload
  callbacks : ∀ cb ∈ s.callbacks, cb.directive.message ∈ s.world.stream.messages ∧
    ∃ now payload parent, cb.directive = BgTask.parentDirective now cb.task payload parent ∧
      Announced s.world cb.task payload
  distinct : (s.callbacks.map fun cb => cb.directive.id).Nodup

theorem Announced.mono {w w' : World} {task : BackgroundTask}
    {payload : NotifyParentCompletePayload} (h : Announced w task payload)
    (hj : w.journal ⊆ w'.journal) : Announced w' task payload := by
  obtain ⟨hpayload, c, hc, hr⟩ := h
  exact ⟨hpayload, c, hj hc, hr⟩

variable {cfg : Manager.Config}

theorem CallbackSound.step (hdup : ∀ l id, Log.seen l id = true → cfg.dup l id = true)
    {s s' : CallbackWorld} (hr : Reachable cfg s.world) (hs : CallbackSound s)
    (h : CallbackChange cfg s s') : CallbackSound s' := by
  cases h with
  | other hw =>
    have hchange := (effect_of_step hw).change
    have hj := hchange.journal_sublist.subset
    refine ⟨fun n hn => (hs.notices n hn).mono hj, fun cb hcb => ?_, hs.distinct⟩
    obtain ⟨hmem, now, payload, parent, hd, hannounced⟩ := hs.callbacks cb hcb
    exact ⟨hchange.extends.messages_subset hmem, now, payload, parent, hd, hannounced.mono hj⟩
  | same => exact hs
  | found he hdata hpayload =>
    refine ⟨fun n hn => ?_, hs.callbacks, hs.distinct⟩
    rcases List.mem_append.mp hn with hn | hn
    · exact hs.notices n hn
    · rw [List.mem_singleton.mp hn]
      exact ⟨hpayload, exists_commit_of_bgTask hr he hdata⟩
  | @called k n d now hn hd _ hnew =>
    refine ⟨fun n' hn' => hs.notices n' (List.mem_of_mem_eraseIdx hn'), fun cb hcb => ?_, ?_⟩
    · simp only [Log.append, Log.messages_appendAll, List.mem_append, List.mem_singleton] at hcb ⊢
      rcases hcb with hcb | rfl
      · obtain ⟨hmem, hrest⟩ := hs.callbacks cb hcb
        exact ⟨.inl hmem, hrest⟩
      · exact ⟨.inr rfl, now, n.payload, n.parent, hd, hs.notices n hn⟩
    · rw [List.map_append, List.nodup_append]
      refine ⟨hs.distinct, by simp, ?_⟩
      rintro id hid id' hid' rfl
      obtain ⟨cb, hcb, rfl⟩ := List.mem_map.mp hid
      have hsame : cb.directive.id = d.id := List.mem_singleton.mp hid'
      -- the stored callback has used the identifier
      have hseen := Log.seen_of_mem_messages (hs.callbacks cb hcb).1 (congrArg some hsame)
      rw [hdup _ _ hseen] at hnew
      cases hnew
  | lost =>
    exact ⟨fun n hn => hs.notices n (List.mem_of_mem_eraseIdx hn), hs.callbacks, hs.distinct⟩

theorem callbackSound_of_reachable (hdup : ∀ l id, Log.seen l id = true → cfg.dup l id = true)
    {s : CallbackWorld} (h : CallbackReachable cfg s) : CallbackSound s :=
  Reach.invariant h ⟨by simp, by simp, by simp⟩ fun _ _ _ hr hs _ hstep =>
    hs.step hdup (reachable_world hr) (callbackChange_of_step hstep)

/-! ### A child run ends once -/

/-- The outcome of the run, as the batch that ends it tells it. -/
def Commit.Ends (wf : WFID) (run : RunID) (c : Commit)
    (outcome : RunStatus × Value × Option ErrorDetails) : Prop :=
  c.directive.OfRun wf run ∧ ∃ s ∈ c.states wf run, s.isTerminal = true ∧
    ∃ h, Record.history h ∈ c.records ∧ h.kind = s.kind.closing ∧ h.msg.outcome? = some outcome

/-- Only a batch that ends a run has a task that notifies a parent. The task is the only one, and it
tells the outcome. -/
structure Telling (c : Commit) : Prop where
  ends : ∀ task payload, Record.backgroundTask task ∈ c.records →
    task.notice? = some payload →
      c.Ends c.directive.runInfo.wfID c.directive.runInfo.id
        (payload.status, payload.result, payload.error)
  once : ∀ task task', Record.backgroundTask task ∈ c.records →
    Record.backgroundTask task' ∈ c.records → task.notice?.isSome = true →
      task'.notice?.isSome = true → task = task'

theorem mem_filterMap_task? {records : List Record} {task : BackgroundTask}
    (hr : Record.backgroundTask task ∈ records) : task ∈ records.filterMap Record.task? :=
  List.mem_filterMap.mpr ⟨_, hr, rfl⟩

theorem eq_of_length_filterMap_le_one {α β : Type} {f : α → Option β} {l : List α} {x y : α}
    (h : (l.filterMap f).length ≤ 1) (hx : x ∈ l) (hy : y ∈ l) (hfx : (f x).isSome = true)
    (hfy : (f y).isSome = true) : x = y := by
  have later {x y : α} (hfx : (f x).isSome = true) (hfy : (f y).isSome = true)
      (hsplit : ∃ pre post, l = pre ++ x :: post ∧ y ∈ pre) : False := by
    obtain ⟨pre, post, rfl, hpre⟩ := hsplit
    obtain ⟨b, hb⟩ := Option.isSome_iff_exists.mp hfx
    obtain ⟨b', hb'⟩ := Option.isSome_iff_exists.mp hfy
    have hpos : 0 < (pre.filterMap f).length :=
      List.length_pos_of_mem (List.mem_filterMap.mpr ⟨y, hpre, hb'⟩)
    rw [List.filterMap_append, List.filterMap_cons_some hb, List.length_append,
      List.length_cons] at h
    omega
  by_contra hne
  rcases mem_before_of_ne hx hy hne with hxy | hyx
  · exact later hfx hfy hxy
  · exact later hfy hfx hyx

theorem GoesOn.notice?_eq_none {records : List Record} (h : GoesOn records) {task : BackgroundTask}
    (hr : Record.backgroundTask task ∈ records) : task.notice? = none := by
  have hdeletes := h.tasks task hr
  rcases task with ⟨_, _, payload⟩
  cases payload <;> first | rfl | cases hdeletes

theorem Batch.telling {w : World} {c : Call} {sn : StateSnapshot} {records : List Record}
    {l : Stream} (hw : Sound w) (hb : Batch cfg w c sn records l) :
    Telling (w.commitOf c sn records) := by
  obtain ⟨env, failEnv, hrec⟩ := hb.planned
  rcases closes_of_handleRecords hrec with ⟨src, now, kind, hkind, -, hclosing⟩ | hgoesOn
  · obtain ⟨h, result, error, hhistory, hhkind, hout, hnotices⟩ := hclosing.event
    obtain ⟨n, hstates⟩ := hclosing.states
    have hstate : Record.runState (Records.finished now sn.runState kind) n ∈ records := by
      obtain ⟨r, hr, hs⟩ := List.mem_filterMap.mp (hstates ▸ List.mem_singleton_self _)
      exact Record.runState?_eq_some.mp hs ▸ hr
    have hevent : Record.history h ∈ records := by
      have hmem := (List.mem_filter.mp (hhistory ▸ List.mem_singleton_self h)).1
      obtain ⟨r, hr, hrh⟩ := List.mem_filterMap.mp hmem
      exact Record.history?_eq_some.mp hrh ▸ hr
    refine ⟨fun task payload hr hpayload => ⟨⟨rfl, rfl⟩, _, Commit.mem_states.mpr
      ⟨_, n, hstate, (hb.ofRun hw hstate).1, (hb.ofRun hw hstate).2, rfl⟩, hkind, h, hevent, hhkind,
      ?_⟩, fun task task' hr hr' => eq_of_length_filterMap_le_one ?_ (mem_filterMap_task? hr)
        (mem_filterMap_task? hr')⟩
    · have hmem : (payload.status, payload.result, payload.error) ∈
          (tasksBy BackgroundTask.notice? records).map fun p => (p.status, p.result, p.error) :=
        List.mem_map.mpr ⟨payload,
          List.mem_filterMap.mpr ⟨task, mem_filterMap_task? hr, hpayload⟩, rfl⟩
      rw [hnotices] at hmem
      split_ifs at hmem
      · rw [hout, List.mem_singleton.mp hmem]
      · cases hmem
    · have hlength := congrArg List.length hnotices
      rw [List.length_map] at hlength
      exact hlength.le.trans (by split_ifs <;> simp)
  · constructor
    · intro task payload hr hpayload
      simp [hgoesOn.notice?_eq_none hr] at hpayload
    · intro task task' hr _ hn
      simp [hgoesOn.notice?_eq_none hr] at hn

/-- A stored callback tells the outcome of a batch that ended the child. -/
structure Callback.Tells (cb : Callback) (wf : WFID) (run : RunID) (c : Commit)
    (payload : NotifyParentCompletePayload) : Prop where
  handed : Record.backgroundTask cb.task ∈ c.records
  notice : cb.task.notice? = some payload
  directive : ∃ now parent, cb.directive = BgTask.parentDirective now cb.task payload parent
  ends : c.Ends wf run (payload.status, payload.result, payload.error)

theorem CallbackSound.tells {s : CallbackWorld} {wf : WFID} {run : RunID} {cb : Callback}
    (hs : CallbackSound s) (htelling : ∀ c ∈ s.world.journal, Telling c)
    (hcb : cb ∈ s.callbacksFor wf run) : ∃ c ∈ s.world.journal, ∃ payload,
      cb.Tells wf run c payload := by
  obtain ⟨hmem, hhands⟩ := List.mem_filter.mp hcb
  obtain ⟨c, hc, ⟨rfl, rfl⟩, hr⟩ := of_decide_eq_true hhands
  obtain ⟨-, now, payload, parent, hd, hpayload, -⟩ := hs.callbacks cb hmem
  have hnotice : cb.task.notice? = some payload := by
    rw [BackgroundTask.notice?, hpayload]
  exact ⟨c, hc, payload, hr, hnotice, ⟨now, parent, hd⟩,
    (htelling c hc).ends _ _ hr hnotice⟩

/-- A parent is called back at most once for a child run that is started once, however its
directives and the deliveries of its tasks interleave, and what it is told is the outcome of the
batch that ended the child. The stream is assumed never to forget a message identifier. -/
theorem parent_called_back_once (cfg : Manager.Config)
    (hdup : ∀ l id, Log.seen l id = true → cfg.dup l id = true) (s : CallbackWorld)
    (h : CallbackReachable cfg s) (wf : WFID) (run : RunID)
    (hstart : s.world.journal.countP (Commit.starts wf run) ≤ 1) :
    (s.callbacksFor wf run).length ≤ 1 ∧
      ∀ cb ∈ s.callbacksFor wf run, cb.directive.message ∈ s.world.stream.messages ∧
        ∃ name status result error,
          cb.directive.msg =
            .event { eventName := name, payload := .childOutcome status result error } ∧
          ∃ c ∈ s.world.journal, c.Ends wf run (status, result, error) := by
  have hreach := reachable_world h
  have hsound := callbackSound_of_reachable hdup h
  have htelling : ∀ c ∈ s.world.journal, Telling c :=
    forall_mem_journal hreach fun _ _ _ _ _ hr hb => hb.telling (sound_of_reachableBy hr)
  have hmem {cb : Callback} (hcb : cb ∈ s.callbacksFor wf run) : cb ∈ s.callbacks :=
    (List.mem_filter.mp hcb).1
  have hunique : ∀ cb ∈ s.callbacksFor wf run, ∀ cb' ∈ s.callbacksFor wf run, cb = cb' := by
    intro cb hcb cb' hcb'
    obtain ⟨c, hc, payload, htells⟩ := hsound.tells htelling hcb
    obtain ⟨c', hc', payload', htells'⟩ := hsound.tells htelling hcb'
    obtain ⟨hof, st, hst, hterm, -⟩ := htells.ends
    obtain ⟨hof', st', hst', hterm', -⟩ := htells'.ends
    obtain rfl := eq_of_terminal_states (serial_of_reachableBy hreach wf run) hstart hc hc' hof hof'
      ⟨st, hst, hterm⟩ ⟨st', hst', hterm'⟩
    have htask : cb.task = cb'.task := (htelling c hc).once _ _ htells.handed htells'.handed
      (by simp [htells.notice]) (by simp [htells'.notice])
    obtain ⟨now, parent, hd⟩ := htells.directive
    obtain ⟨now', parent', hd'⟩ := htells'.directive
    refine List.inj_on_of_nodup_map hsound.distinct (hmem hcb) (hmem hcb') ?_
    simp [hd, hd', BgTask.parentDirective, htask]
  refine ⟨?_, fun cb hcb => ?_⟩
  · have hnodup : (s.callbacksFor wf run).Nodup := (List.Nodup.of_map _ hsound.distinct).filter _
    rcases hl : s.callbacksFor wf run with _ | ⟨cb, _ | ⟨cb', rest⟩⟩
    · exact Nat.zero_le 1
    · exact le_rfl
    · rw [hl] at hnodup hunique
      have := hunique cb (by simp) cb' (by simp)
      simp [this] at hnodup
  · obtain ⟨c, hc, payload, htells⟩ := hsound.tells htelling hcb
    obtain ⟨now, parent, hd⟩ := htells.directive
    exact ⟨(hsound.callbacks cb (hmem hcb)).1, payload.stepName, payload.status, payload.result,
      payload.error, by rw [hd]; rfl, c, hc, htells.ends⟩

namespace Sample

/-- The run `c1` of the workflow `child`, which the run `r1` of `wf` has started. -/
def child : RunInfo where
  id := "c1"
  wfID := "child"
  wfType := "payment"
  status := .scheduled
  parentWFID := some "wf"
  parentRunID := some "r1"
  parentCallbackStep := some "join"

/-- The directive that starts the child. -/
def childStart : Directive where
  id := "cs"
  kind := .start
  runInfo := child
  msg := .start .nil 0

/-- The only step of the child completes it. -/
def childDone : Directive where
  id := "cd"
  timestamp := 2000000
  kind := .stepResult
  runInfo := { child with status := .running, startedAt := some 1000000 }
  msg := .stepResult .start (.start .nil 0) (some "worker") 5 none .complete (.complete .nil)

/-- The parent is created, and the child is started and completes. -/
def childEnds : List Label :=
  [.admitRun run, .saveRun 0, .publish childStart] ++ handled 2 ++ .publish childDone :: handled 10

/-- Two deliveries of the notification of the child overlap. -/
def overlapping : CallbackWorld :=
  execD (callbackStep config) (fun _ _ => True) { world := .init }
    (childEnds.map .other ++ [.lookUp 16 1, .lookUp 16 2, .call 0 3000000, .call 0 4000000])

end Sample

theorem parent_called_back_once_overlapping :
    (Sample.overlapping.callbacksFor "child" "c1").length = 1 ∧
      ∀ cb ∈ Sample.overlapping.callbacksFor "child" "c1", ∃ name status result error,
        cb.directive.msg =
          .event { eventName := name, payload := .childOutcome status result error } ∧
        ∃ c ∈ Sample.overlapping.world.journal, c.Ends "child" "c1" (status, result, error) := by
  have hreach : CallbackReachable Sample.config Sample.overlapping := reach_execD ..
  obtain ⟨hstarts, hlength⟩ :
      Sample.overlapping.world.journal.countP (Commit.starts "child" "c1") ≤ 1 ∧
        (Sample.overlapping.callbacksFor "child" "c1").length = 1 := by decide +kernel
  have honce := parent_called_back_once Sample.config (fun _ _ hseen => hseen) Sample.overlapping
    hreach "child" "c1" hstarts
  exact ⟨hlength, fun cb hcb => (honce.2 cb hcb).2⟩

/-! ### Which run is called back -/

/-- What becomes of a notification: it goes to the run `run` of `wf` only, and nowhere once that run
has ended. -/
def CallsOnly (l : Stream) (wf : WFID) (run : RunID) (called : Outcome (Option Directive)) : Prop :=
  ∀ d, called = .ok (some d) → d.OfRun wf run ∧ (currentState l wf run).isTerminal = false

/-- The latest description of `wf` is terminal or of the run `run`, which has not ended. -/
def LatestIs (l : Stream) (wf : WFID) (run : RunID) : Prop :=
  ∀ info, getRunByWFID l wf = .ok (some info) →
    info.isTerminal = true ∨ info.id = run ∧ (currentState l wf run).isTerminal = false

/-- A run description is stored for the workflow it names. -/
theorem wfID_of_mem_descriptions {ok : World → Label → Prop} {w : World} {wf : WFID}
    (h : ReachableBy cfg ok w) : ∀ info ∈ descriptions wf w.stream, info.wfID = wf := by
  refine Reach.invariant (P := fun w => ∀ info ∈ descriptions wf w.stream, info.wfID = wf) h
    (fun info hinfo => by cases hinfo) fun w a w' _ ih _ hstep info hinfo => ?_
  cases infoChange_of_step hstep wf with
  | same hinfos => exact ih info (hinfos ▸ hinfo)
  | created _ hwf hinfos =>
    rw [hinfos, List.mem_append, List.mem_singleton] at hinfo
    rcases hinfo with hinfo | rfl
    · exact ih info hinfo
    · exact hwf
  | batch _ _ hinfos =>
    rw [hinfos, List.mem_append] at hinfo
    rcases hinfo with hinfo | hinfo
    · exact ih info hinfo
    · exact (mem_describedBy.mp hinfo).2

theorem parentWFID_of_parentCallbackRecords {d : Directive} {wf : WFID} {status : RunStatus}
    {result : Value} {error : Option ErrorDetails} {task : BackgroundTask}
    {payload : NotifyParentCompletePayload} (hwf : d.runInfo.parentWFID = some wf)
    (htask : Records.parentCallbackRecords d status result error = [.backgroundTask task])
    (hpayload : task.payload = .notifyParentComplete payload) : payload.parentWFID = wf := by
  rw [Records.parentCallbackRecords] at htask
  split at htask
  · rename_i wf' _ hwf' _
    cases htask
    cases hpayload
    exact Option.some.inj (hwf'.symm.trans hwf)
  · cases htask

theorem BgTask.handleNotifyParentComplete_eq_some {now : Time} {l : Stream} {task : BackgroundTask}
    {payload : NotifyParentCompletePayload} {d : Directive} :
    handleNotifyParentComplete now l task payload = .ok (some d) ↔
      ∃ parent, getRunByWFID l payload.parentWFID = .ok (some parent) ∧
        parent.isTerminal = false ∧ parentDirective now task payload parent = d := by
  simp only [handleNotifyParentComplete, bind_eq_ok, pure_eq_ok, Option.map_eq_some_iff]
  constructor
  · rintro ⟨_, hparent, parent, rfl, rfl⟩
    obtain ⟨hlookup, hactive⟩ := parentRun_eq_some.mp hparent
    exact ⟨parent, hlookup, hactive, rfl⟩
  · rintro ⟨parent, hlookup, hactive, rfl⟩
    exact ⟨some parent, parentRun_eq_some.mpr ⟨hlookup, hactive⟩, parent, rfl, rfl⟩

/-- The notification of a child goes to the run that started it, and is dropped once that run has
ended, exactly if the latest description of the parent's workflow is terminal or of that run, which
has not ended. The payload names the workflow of the parent and no run. -/
theorem callback_to_starter_iff (cfg : Manager.Config) (w : World) (h : Reachable cfg w)
    (d : Directive) (parentWFID : WFID) (parentRunID : RunID) (stepName : String)
    (hparent : d.runInfo.parentWFID = some parentWFID ∧
      d.runInfo.parentRunID = some parentRunID ∧ d.runInfo.parentCallbackStep = some stepName)
    (status : RunStatus) (result : Value) (error : Option ErrorDetails) (task : BackgroundTask)
    (payload : NotifyParentCompletePayload)
    (htask : Records.parentCallbackRecords d status result error = [.backgroundTask task])
    (hpayload : task.payload = .notifyParentComplete payload) (now : Time) :
    CallsOnly w.stream parentWFID parentRunID
        (BgTask.handleNotifyParentComplete now w.stream task payload) ↔
      LatestIs w.stream parentWFID parentRunID := by
  obtain rfl := parentWFID_of_parentCallbackRecords hparent.1 htask hpayload
  constructor
  · intro hcalls info hlookup
    by_cases hterm : info.isTerminal = true
    · exact .inl hterm
    · obtain ⟨hof, hlive⟩ := hcalls _ (BgTask.handleNotifyParentComplete_eq_some.mpr
        ⟨info, hlookup, by simpa using hterm, rfl⟩)
      exact .inr ⟨hof.2, hlive⟩
  · intro hlatest d' hd'
    obtain ⟨parent, hlookup, hactive, rfl⟩ := BgTask.handleNotifyParentComplete_eq_some.mp hd'
    obtain ⟨hid, hlive⟩ := (hlatest parent hlookup).resolve_left (by simp [hactive])
    have hlast := getRunByWFID_eq_getLast? h payload.parentWFID
    rw [hlookup] at hlast
    have hmem := List.mem_of_getLast? (Except.ok.inj hlast).symm
    exact ⟨⟨wfID_of_mem_descriptions h parent hmem, hid⟩, hlive⟩

namespace Sample

/-- What the parent of the child is told. -/
def outcome : NotifyParentCompletePayload where
  parentWFID := "wf"
  stepName := "join"
  childWFID := "child"
  status := .completed
  result := .nil
  error := none

/-- The task by which the last batch of the child notifies the parent. -/
def notification : BackgroundTask :=
  newNotifyParentCompleteTask (deriveNextDirectiveID "cd") outcome

/-- The child ends, then the run `r1` that started it, and a run `r2` of its workflow is created. -/
def parentReplaced : List Label :=
  childEnds ++ .publish start :: handled 18 ++
    .publish (stepResult "done" .complete (.complete .nil)) :: handled 26 ++
      [.admitRun { run with id := "r2" }, .saveRun 0]

end Sample

/-- The callback of a child of the finished run `r1` goes to the run `r2`. -/
theorem callback_to_later_run :
    Reachable Sample.config (Sample.world Sample.parentReplaced) ∧
      Sample.childDone.runInfo.parentRunID = some "r1" ∧
      (∃ c ∈ (Sample.world Sample.parentReplaced).journal,
        Record.backgroundTask Sample.notification ∈ c.records) ∧
      (currentState (Sample.world Sample.parentReplaced).stream "wf" "r1").isTerminal = true ∧
      ∃ d, BgTask.handleNotifyParentComplete 9000000
          (Sample.world Sample.parentReplaced).stream Sample.notification Sample.outcome =
        .ok (some d) ∧ d.runInfo.id = "r2" := by
  obtain ⟨hcommit, hended, hlookup⟩ :
      (∃ c ∈ (Sample.world Sample.parentReplaced).journal,
        Record.backgroundTask Sample.notification ∈ c.records) ∧
      (currentState (Sample.world Sample.parentReplaced).stream "wf" "r1").isTerminal = true ∧
      getRunByWFID (Sample.world Sample.parentReplaced).stream Sample.outcome.parentWFID =
        .ok (some { Sample.run with id := "r2" }) := by decide +kernel
  exact ⟨Sample.reachable_world _, rfl, hcommit, hended, _,
    BgTask.handleNotifyParentComplete_eq_some.mpr ⟨_, hlookup, rfl, rfl⟩, rfl⟩

/-- While the run `r1` is active, its callback goes there. -/
theorem callback_to_starter_iff_childEnds :
    CallsOnly (Sample.world Sample.childEnds).stream "wf" "r1"
      (BgTask.handleNotifyParentComplete 9000000 (Sample.world Sample.childEnds).stream
        Sample.notification Sample.outcome) := by
  obtain ⟨hlookup, hlive⟩ :
      getRunByWFID (Sample.world Sample.childEnds).stream "wf" = .ok (some Sample.run) ∧
        (currentState (Sample.world Sample.childEnds).stream "wf" "r1").isTerminal = false := by
    decide +kernel
  refine (callback_to_starter_iff Sample.config _ (Sample.reachable_world _)
    { Sample.childDone with id := deriveNextDirectiveID "cd" } "wf" "r1" "join" ⟨rfl, rfl, rfl⟩
    .completed .nil none Sample.notification Sample.outcome rfl rfl 9000000).mpr
    fun info hinfo => ?_
  cases hlookup.symm.trans hinfo
  exact .inr ⟨rfl, hlive⟩

end Grctl
