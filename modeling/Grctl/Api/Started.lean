import Grctl.Api.Server
import Grctl.Log.Consumer
import Grctl.System.Uncontended

/-!
# From a start command to the first step

A client that starts a run gets an answer as soon as the description of the run is saved and its
directive is in the queue. What follows goes through all parts of the server: the queue delivers the
directive, the run manager plans from an empty state, and the batch is stored. This file follows a
start all the way, from any reachable server: when the directive is handled without an
interruption, the run is in its first step, the task of the step with the input of the command waits
for a worker, and the run is described as running since the moment of its planning.

## Main definitions

* `StartBatch`: what the batch of a start ends with.

## Main results

* `startBatch_of_planFromRunStart`: every start can be planned so.
* `Api.start_dispatches`: an accepted start leads to its first step.
-/

namespace Grctl

open SubjectLog Lts

/-! ### The batch of a start -/

/-- The batch of the start `d`: after other records, the run is described as running, the start is
handed to a worker, and the run is in the step. Nothing in it has an identifier to compare. -/
structure StartBatch (env : Readings) (d : Directive) (ri : RunInfo) (s : RunState)
    (front : List Record) (n : ℕ) (records : List Record) : Prop where
  eq : records = front ++ [.runInfo ri 0, .workerTask { d with runInfo := ri }, .runState s n]
  info : ri.SameRun d.runInfo ∧ ri.status = .running ∧ ri.startedAt = some env.now
  state : s.wfID = d.runInfo.wfID ∧ s.runID = d.runInfo.id ∧ s.kind = .step ∧
    s.activeDirectiveID = d.id
  plain : ∀ r ∈ records, r.msgID? = none

theorem RunInfo.startedAt_of_startStep {ri ri' : RunInfo} {name : String} {t : Time}
    (h : ri.startStep name t = .ok ri') : ri'.startedAt = ri.startedAt := by
  cases h
  rw [withCreatedAt]
  split_ifs <;> rfl

theorem startBatch_of_planFromRunStart {cfg : Defaults} {env : Readings} {d : Directive}
    {records : List Record} (h : planFromRunStart cfg env d = .ok records) :
    ∃ ri s front n, StartBatch env d ri s front n records := by
  obtain ⟨ri, e, input, body, hri, -, hinput, hbody, rfl⟩ := parts_of_planFromRunStart h
  obtain ⟨hsame, hstarted, -⟩ := RunInfo.sameRun_of_start hri
  obtain ⟨name, hbody⟩ := Records.stepStart_eq_ok hbody
  simp only [Records.dispatch, bind_eq_ok, wrap_eq_ok, pure_eq_ok] at hbody
  obtain ⟨timer, -, ri', hri', rfl⟩ := hbody
  obtain ⟨hsame', hstatus⟩ := RunInfo.sameRun_of_startStep hri'
  refine ⟨ri', { startState env.now d with
      kind := .step
      enteredAt := env.now
      activeDirectiveID := d.id
      lastEventSeqID := Records.cursorAfter { d with runInfo := ri } (startState env.now d) },
    [.history e, .runInfo ri 0] ++ input ++ [.runState (startState env.now d) 0, .timer timer],
    (startState env.now d).seqID, ?_, ⟨?_, hstatus, ?_⟩, ⟨rfl, rfl, rfl, rfl⟩, fun r hr => ?_⟩
  · simp [Records.repairRunInfo]
  · have hrepaired : (Records.repairRunInfo { d with runInfo := ri }
      (startState env.now d)).runInfo.SameRun ri := ⟨rfl, rfl, rfl⟩
    exact hsame'.trans (hrepaired.trans hsame)
  · rw [RunInfo.startedAt_of_startStep hri']
    simp [Records.repairRunInfo, hstarted]
  · simp only [List.mem_append, List.mem_cons, List.not_mem_nil, or_false] at hr
    rcases hr with ((rfl | rfl) | hr) | rfl | rfl | rfl | rfl | rfl
    · rfl
    · rfl
    · obtain ⟨v, rfl⟩ := hinput r hr
      rfl
    all_goals rfl

/-! ### A directive that has just been published -/

/-- What has been acknowledged lies in the stream. -/
theorem le_length_of_acked {cfg : Manager.Config} {w : World} (h : Reachable cfg w) :
    ∀ seq ∈ w.acked, seq ≤ w.stream.length := by
  refine Reach.invariant (P := fun w => ∀ seq ∈ w.acked, seq ≤ w.stream.length) h
    (by simp [World.init]) fun w a w' hr ih _ hstep seq hseq => ?_
  have hle := (effect_of_step hstep).change.extends.length_le
  have hcall {k : ℕ} {c : Call} (hc : w.calls[k]? = some c) : c.seq ≤ w.stream.length := by
    obtain ⟨e, he, -, hseq⟩ := ((sound_of_reachableBy hr).calls c (List.mem_of_getElem? hc)).entry
    exact hseq ▸ (Log.seq_mem_range he).2
  have hnew {k : ℕ} {c : Call} (hc : w.calls[k]? = some c) (h : seq ∈ c.seq :: w.acked) :
      seq ≤ w.stream.length := by
    rcases List.mem_cons.mp h with rfl | hold
    · exact hcall hc
    · exact ih seq hold
  refine Nat.le_trans ?_ hle
  cases effect_of_step hstep with
  | commit hc =>
    dsimp only at hseq
    split_ifs at hseq
    · exact hnew hc hseq
    · exact ih seq hseq
  | reject hc _ hacked =>
    rcases hacked with rfl | ⟨rfl, -⟩
    · exact ih seq hseq
    · exact hnew hc hseq
  | _ => exact ih seq hseq

/-- The queue offers a directive that has just been published. -/
theorem World.offers_of_publish {w : World} {l : Stream} {d : Directive}
    (hacked : ∀ seq ∈ w.acked, seq ≤ l.length) (hl : w.stream = l.append d.message) :
    w.Offers w.stream.length d := by
  have hlength : w.stream.length = l.length + 1 := by
    rw [hl, Log.append, Log.length_appendAll, List.length_singleton]
  refine ⟨fun hmem => ?_, ?_⟩
  · have := hacked _ hmem
    omega
  · have hold : l.entries.find? (fun e => e.live && e.seq == l.length + 1) = none := by
      refine List.find?_eq_none.mpr fun e he => ?_
      have := (Log.seq_mem_range he).2
      simp only [Bool.and_eq_true, beq_iff_eq, not_and]
      omega
    rw [World.entryAt, hlength, hl, Log.append, Log.entries_appendAll, List.find?_append, hold]
    simp [stamp]

/-! ### A start that is handled -/

/-- What a start leaves behind when it has been handled: the run is in its first step, its task
waits for a worker, and the run is described as running since its start was planned. -/
structure Dispatched (env : Readings) (d : Directive) (l : Stream) : Prop where
  state : ∃ s, getRunState l d.runInfo.wfID d.runInfo.id = .ok (some s) ∧ s.kind = .step ∧
    s.activeDirectiveID = d.id
  task : ∃ ri, ri.SameRun d.runInfo ∧
    (Record.workerTask { d with runInfo := ri }).messages ⊆ l.messages
  info : ∃ ri, getRunByWFID l d.runInfo.wfID = .ok (some ri) ∧ ri.SameRun d.runInfo ∧
    ri.status = .running ∧ ri.startedAt = some env.now

section Start

variable {cfg : Manager.Config} {w : World} {d : Directive} {env failEnv : Readings}
  {records front : List Record} {ri : RunInfo} {s : RunState} {n seq : ℕ} {l l' : Stream}

theorem StartBatch.dispatched (h : StartBatch env d ri s front n records)
    (hc : commit cfg.dup l records = .ok l') : Dispatched env d l' := by
  obtain ⟨rfl, ⟨hsame, hstatus, hstarted⟩, ⟨hwf, hid, hkind, hactive⟩, -⟩ := h
  have hl' := eq_appendAll_of_commit hc
  refine ⟨?_, ⟨ri, hsame, fun m hm => ?_⟩, ⟨ri, ?_, hsame, hstatus, hstarted⟩⟩
  · have hstates : (front ++ [Record.runInfo ri 0, .workerTask { d with runInfo := ri },
        .runState s n]).filterMap Record.runState? =
          front.filterMap Record.runState? ++ [(s, n)] := by
      rw [List.filterMap_append]
      rfl
    obtain ⟨k, hk⟩ := getRunState_of_commit hstates hc
    rw [hwf, hid] at hk
    exact ⟨_, hk, hkind, hactive⟩
  · rw [hl', Log.messages_appendAll]
    refine List.mem_append_right _ (List.mem_flatMap.mpr ⟨_, ?_, hm⟩)
    simp
  · rw [hl', List.flatMap_append]
    refine getRunByWFID_appendAll l (front.flatMap Record.messages)
      ((Record.workerTask { d with runInfo := ri }).messages ++ (Record.runState s n).messages)
      (m := runInfoMessage ri) ?_ rfl ?_
    · simp [runInfoMessage, Subject.describes, hsame.wfID]
    · simp [Record.messages, Subject.describes]

/-- A start of a run that has no state yet, when it is handled without an interruption. -/
theorem exec_of_start (h : Reachable cfg w)
    (hdup : ∀ l id, cfg.dup l id = true → Log.seen l id = true) (hd : w.Offers seq d)
    (hkind : d.kind = .start) (hri : d.runInfo.Taken) (hid : SubjectText d.id)
    (hfirst : getRunState w.stream d.runInfo.wfID d.runInfo.id = .ok none)
    (env failEnv : Readings) (ack : Bool) :
    ∃ w', exec (step cfg) (fun _ _ => True) w
        (uninterrupted w.calls.length seq env failEnv ack) = some w' ∧
      Dispatched env d w'.stream := by
  have hw := sound_of_reachableBy h
  have hdecoded := hw.decoded_of_offers hd
  obtain ⟨sn, hsn⟩ := hw.exists_getStateSnapshot d.runInfo.wfID d.runInfo.id
  have hzero : sn.runState = .zero := by
    obtain ⟨s, e, hs, -, rfl⟩ := getStateSnapshot_eq_ok hsn
    rw [Except.ok.inj (hs.symm.trans hfirst)]
    rfl
  obtain ⟨records, hplan⟩ : ∃ records, plan cfg.defaults env d sn = .ok records :=
    exists_plan_of_kind hdecoded (hw.eventSound_of_snapshot hsn) (.inl hkind)
  have hrecords : handleRecords cfg.defaults env failEnv d sn = .ok records := by
    rw [handleRecords, hplan]
  rw [plan, hzero, if_neg (by decide)] at hplan
  simp only [hkind] at hplan
  obtain ⟨ri, s, front, n, hbatch⟩ := startBatch_of_planFromRunStart hplan
  have hne : records ≠ [] := by
    rw [hbatch.eq]
    simp
  have hfresh : ∀ id ∈ records.filterMap Record.msgID?, w.stream.seen id = false := by
    rw [List.filterMap_eq_nil_iff.mpr hbatch.plain]
    simp
  have hstorable : Storable d sn :=
    .inr (.inr ⟨hkind, hri.texts.2.1.ne_empty, hri.texts.2.2.ne_empty⟩)
  have hplanned := planned_of_handleRecords hdecoded (hw.eventSound_of_snapshot hsn) hrecords
  have htaken : ∀ r ∈ records, r.Taken := (filed_planFromRunStart hri hid hplan).taken
    (statesNamed_of_storable hw hplanned hsn hstorable) (by simp)
  exact ⟨_, exec_of_storable h hdup hd hsn hrecords hne hfresh hstorable htaken,
    hbatch.dispatched
      (commit_of_snapshot hw hdup hdecoded hsn hrecords hne hfresh hstorable htaken)⟩

end Start

namespace Api

variable {cfg : Manager.Config} {req : Request} {s s' : Server}

/-- An accepted start has saved its run and offered its directive to the stream. -/
theorem started_of_success {doc : Document} {cmd : Command} {info : RunInfo} {input : Value}
    (hdoc : decodeCommand doc = .ok cmd) (hmsg : cmd.msg = .start info input)
    (h : handler cfg req s doc = (.success none, s')) :
    ∃ registered, info.Taken ∧ s' = s.withStream (publishDirective cfg.dup
      (s.world.stream.append (runInfoMessage info))
      (Service.startDirective registered cfg.defaults.stepTimeoutMS req.env info input)) := by
  have hanswered := answered_handleMessage cfg req s cmd
  rw [handler_of_decode hdoc] at h
  generalize (handleMessage cfg req.env cmd).run (perform cfg req.faults) s = r at hanswered h
  obtain ⟨hresponse, rfl⟩ := Prod.mk.inj h
  have hok : r.1 = .ok none := by
    cases hr : r.1 with
    | error e => simp [hr, respond] at hresponse
    | ok payload => simpa [hr, respond] using hresponse
  cases hanswered with
  | unknown => cases hok
  | mismatched => cases hok
  | commanded _ htarget => simp [hmsg, target?] at htarget
  | described _ hdescribe => cases hmsg.symm.trans hdescribe
  | nothing _ hregister => cases hmsg.symm.trans hregister
  | registered _ hregister => cases hmsg.symm.trans hregister
  | started _ hstart hout =>
    cases hmsg.symm.trans hstart
    cases hout with
    | saved hsaves _ _ hd =>
      subst hd
      cases hpublish : req.faults.publishDirective with
      | stored => exact ⟨_, hsaves.taken, rfl⟩
      | refused text =>
        rw [hpublish] at hok
        cases hok
      | unconfirmed text =>
        rw [hpublish] at hok
        cases hok
    | _ => cases hok

/-- **Starts.** From every reachable server, a start command that is accepted leads to the first
step of its run: when its directive is handled without an interruption, the run is in this step, the
task of the step with the input of the command waits for a worker, and the run is described as
running. The identifier of the directive must be new and fit for a subject, and the run without a
state. -/
theorem start_dispatches (h : Reachable cfg s.world)
    (hdup : ∀ l id, cfg.dup l id = true → Log.seen l id = true) {doc : Document} {cmd : Command}
    {info : RunInfo} {input : Value} (hdoc : decodeCommand doc = .ok cmd)
    (hmsg : cmd.msg = .start info input) (hok : handler cfg req s doc = (.success none, s'))
    (hid : SubjectText req.env.newID) (hnew : s.world.stream.seen req.env.newID = false)
    (hfirst : getRunState s.world.stream info.wfID info.id = .ok none)
    (env failEnv : Readings) (ack : Bool) :
    ∃ registered w', exec (step cfg) (fun _ _ => True) s'.world
        (uninterrupted s'.world.calls.length s'.world.stream.length env failEnv ack) = some w' ∧
      Dispatched env
        (Service.startDirective registered cfg.defaults.stepTimeoutMS req.env info input)
        w'.stream := by
  have hreach : Reachable cfg s'.world := by
    have hhandler := reachable_handler (s := s) h hid.ne_empty doc
    rwa [hok] at hhandler
  obtain ⟨registered, htaken, rfl⟩ := started_of_success hdoc hmsg hok
  generalize hd : Service.startDirective registered cfg.defaults.stepTimeoutMS req.env info input =
    d at hreach
  have hdid : d.id = req.env.newID := hd ▸ rfl
  have hrun : d.runInfo = info := hd ▸ rfl
  -- the directive is the last message of the stream
  have hpublished : publishDirective cfg.dup (s.world.stream.append (runInfoMessage info)) d =
      (s.world.stream.append (runInfoMessage info)).append d.message := by
    refine publishDirective_of_fresh hdup (by rw [Directive.subject, hrun]; exact htaken.texts) ?_
    rw [Log.append, Log.seen_appendAll, hdid, hnew]
    simp [runInfoMessage]
  rw [hpublished] at hreach ⊢
  have hacked : ∀ seq ∈ s.world.acked, seq ≤ (s.world.stream.append (runInfoMessage info)).length :=
    fun seq hseq => by
      have hle := le_length_of_acked h seq hseq
      rw [Log.append, Log.length_appendAll]
      exact Nat.le_add_right_of_le hle
  have hoffers := World.offers_of_publish (d := d)
    (w := (s.withStream ((s.world.stream.append (runInfoMessage info)).append d.message)).world)
    hacked rfl
  have hnone : getRunState ((s.world.stream.append (runInfoMessage info)).append d.message)
      d.runInfo.wfID d.runInfo.id = .ok none := by
    rw [hrun, ← hfirst]
    refine getRunState_congr ?_
    rw [Log.append, Log.append, Log.lastOn_appendAll_of_ne, Log.lastOn_appendAll_of_ne]
    · simp [runInfoMessage]
    · simp [Directive.message, Directive.subject]
  refine ⟨registered, ?_⟩
  rw [hd]
  exact exec_of_start hreach hdup hoffers (hd ▸ rfl) (hrun ▸ htaken) (hdid ▸ hid) hnone env failEnv
    ack

/-- A run of a registered type, from the command to its first step. -/
theorem start_dispatches_registered :
    ∃ s' registered w', handler Grctl.Sample.config Sample.request Sample.registered
        Sample.startCommand = (.success none, s') ∧
      exec (step Grctl.Sample.config) (fun _ _ => True) s'.world
        (uninterrupted 0 2 Grctl.Sample.env Grctl.Sample.env true) = some w' ∧
      Dispatched Grctl.Sample.env
        (Service.startDirective registered 300000 Sample.request.env Grctl.Sample.run (.raw "in"))
        w'.stream := by
  have hdoc : decodeCommand Sample.startCommand =
      .ok (Sample.command .runStart (.start Grctl.Sample.run (.raw "in"))) := by decide +kernel
  have hinit : Reachable Grctl.Sample.config Server.init.world := .init
  have hid : Sample.request.env.newID ≠ "" := by decide
  have hreach : Reachable Grctl.Sample.config Sample.registered.world :=
    reachable_handler hinit hid Sample.registration
  have hok : (handler Grctl.Sample.config Sample.request Sample.registered
      Sample.startCommand).1 = .success none := by decide +kernel
  obtain ⟨registered, w', hexec, hdispatched⟩ := start_dispatches hreach (fun _ _ h => h) hdoc rfl
    (Prod.ext hok rfl) (by decide +kernel) (by decide +kernel) (by decide +kernel)
    Grctl.Sample.env Grctl.Sample.env true
  exact ⟨_, registered, w', Prod.ext hok rfl, hexec, hdispatched⟩

end Api

end Grctl
