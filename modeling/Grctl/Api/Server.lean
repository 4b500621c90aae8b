import Grctl.Api.Answers
import Mathlib.Data.List.Perm.Basic

/-!
# The server that answers requests

A server answers many requests, and directives are handled meanwhile. This file has all of them take
turns: a request makes one call after the other, and between two of them other requests make theirs
and the system takes its steps. Each call goes as it likes, and a request may end at any point with
the process that handles it.

Between the lookup of a start and the publication of its description the system has admitted the
run (`Label.admitRun`). The server does not record this: it is what the request is about to do. The
refinement recovers it, `Admits` says that the world with these runs admitted is one of the system.

## Main definitions

* `panics`: the steps in which a call of the run manager panics.
* `Api.Action`, `Api.serverStep`, `Api.ServerReachable`: the server and its steps.
* `Api.Performed`: what one call can do.
* `Api.Admits`: the runs that requests are about to save.

## Main results

* `Api.server_refines_world`: the world of the server is one of the system.
* `Api.ServerReachable.handler`: a request that nothing interrupts is a run of the server.
-/

namespace Grctl

open SubjectLog Lts

/-- Whether a step of the system is one in which a call panics. -/
def panics (cfg : Manager.Config) (w : World) : Label → Bool
  | .readEvent k =>
    match w.calls[k]? with
    | some { directive := d, phase := .gotHistory s _, .. } =>
      match getNextEvent w.stream d.runInfo.wfID s.lastEventSeqID with
      | .ok _ => false
      | .error (.error _) => false
      | .error _ => true
    | _ => false
  | .finish k env failEnv _ =>
    match w.calls[k]? with
    | some { directive := d, phase := .ready sn, .. } =>
      !(Manager.handleSnapshot cfg env failEnv d sn w.stream).isOk
    | _ => false
  | _ => false

/-- The steps of a request to create a run. -/
def Label.isAdmission : Label → Bool
  | .admitRun _ | .saveRun _ | .dropRun _ => true
  | _ => false

/-- The other steps do not look at the runs that are admitted, and only a panic touches them. -/
theorem step_withAdmitted {cfg : Manager.Config} {w w' : World} {a : Label}
    (ha : a.isAdmission = false) (h : step cfg w a = some w') (admitted : List RunInfo) :
    step cfg { w with admitted := admitted } a =
      some { w' with admitted := if panics cfg w a then [] else admitted } := by
  have kept (hp : panics cfg w a = false)
      (hs : step cfg { w with admitted := admitted } a = some { w' with admitted := admitted }) :
      step cfg { w with admitted := admitted } a =
        some { w' with admitted := if panics cfg w a then [] else admitted } := by
    rw [hs, hp]
    rfl
  cases a with
  | admitRun info => cases ha
  | saveRun k => cases ha
  | dropRun k => cases ha
  | publish d =>
    refine kept rfl ?_
    simp only [step] at h ⊢
    split_ifs at h ⊢
    cases h
    rfl
  | recordHistory e =>
    refine kept rfl ?_
    simp only [step] at h ⊢
    split_ifs at h ⊢
    cases h
    rfl
  | deliver seq =>
    refine kept rfl ?_
    simp only [step] at h
    split at h
    · rename_i he
      split_ifs at h with hack
      cases h
      have he' : World.entryAt { w with admitted := admitted } seq = some _ := he
      simp only [step, he', if_neg hack]
    · cases h
  | readState k =>
    refine kept rfl ?_
    simp only [step] at h
    split at h
    · rename_i hc
      simp only [step, hc]
      split at h <;> cases h <;> rfl
    · cases h
  | readHistory k =>
    refine kept rfl ?_
    simp only [step] at h
    split at h <;> cases h
    rename_i hc
    simp only [step, hc]
    rfl
  | readEvent k =>
    simp only [step] at h
    split at h
    · rename_i hc
      split at h <;> cases h
      · rename_i he
        simp [step, panics, hc, he, World.advance]
      · rename_i he
        simp [step, panics, hc, he, World.drop]
      · rename_i fault hnot he
        cases fault with
        | error message => exact absurd rfl (hnot message)
        | nilDereference => simp [step, panics, hc, he, World.crash]
        | typeAssertion => simp [step, panics, hc, he, World.crash]
    · cases h
  | finish k env failEnv ack =>
    simp only [step] at h
    split at h <;> cases h
    rename_i d sn hc
    cases hhandled : Manager.handleSnapshot cfg env failEnv d sn w.stream with
    | error fault =>
      simp [step, panics, hc, hhandled, World.finish, World.crash, Except.isOk, Except.toBool]
    | ok handled =>
      simp [step, panics, hc, hhandled, World.finish, World.drop, World.commitOf, Except.isOk,
        Except.toBool]
  | abandon k =>
    refine kept rfl ?_
    cases h
    rfl
  | deliverTask seq n =>
    refine kept rfl ?_
    simp only [step] at h
    split at h
    · rename_i he
      have he' : World.entryAt { w with admitted := admitted } seq = some _ := he
      simp only [step, he']
      split at h <;> cases h <;> rfl
    · cases h
  | purgeNext k =>
    refine kept rfl ?_
    simp only [step] at h
    split at h <;> cases h
    rename_i hk
    simp only [step, hk]
  | fire seq =>
    refine kept rfl ?_
    simp only [step] at h
    split at h <;> cases h
    rename_i he
    have he' : World.entryAt { w with admitted := admitted } seq = some _ := he
    simp only [step, he']

namespace Api

/-! ### The steps -/

/-- What happens to a server: a request arrives, makes a call, or ends, answered or not; or the
system takes a step. -/
inductive Action
  | receive (env : Readings) (order : List Sentinel) (doc : Document)
  | proceed (k : ℕ) (faults : Faults)
  | leave (k : ℕ)
  | internal (a : Label)

/-- One step of the server. A panic of the run manager ends the requests with it. -/
def serverStep (cfg : Manager.Config) (s : Server) : Action → Option Server
  | .receive env order doc =>
    some { s with requests := s.requests ++ [handling cfg env order doc] }
  | .proceed k faults =>
    match s.requests[k]? with
    | some (.call op next) =>
      let r := perform cfg faults s op
      some { r.2 with requests := s.requests.set k (next r.1) }
    | _ => none
  | .leave k => some { s with requests := s.requests.eraseIdx k }
  | .internal a =>
    if a.isAdmission then none
    else (step cfg s.world a).map fun w =>
      { s with world := w, requests := if panics cfg s.world a then [] else s.requests }

/-- The identifier that a request draws when it is received. -/
def Action.drawn? : Action → Option String
  | .receive env _ _ => some env.newID
  | _ => none

/-- Generated identifiers are not empty. -/
def Action.Fresh (a : Action) : Prop :=
  ∀ id ∈ a.drawn?, id ≠ ""

instance (a : Action) : Decidable a.Fresh :=
  inferInstanceAs (Decidable (∀ id ∈ a.drawn?, _))

theorem Action.Fresh.of_none {a : Action} (h : a.drawn? = none) : a.Fresh := by
  simp [Action.Fresh, h]

/-- The servers reached by the calls of requests and by steps of the system, in any order. -/
def ServerReachable (cfg : Manager.Config) : Server → Prop :=
  Reach (serverStep cfg) (fun _ a => a.Fresh) .init

variable {cfg : Manager.Config} {faults : Faults} {s s' : Server} {w w' : World} {op : Op}
  {q : Option WFID}

/-! ### One call -/

/-- What a call can do to the server. -/
inductive Performed (cfg : Manager.Config) (s : Server) : Op → Server → Prop
  | nothing {op : Op} : Performed cfg s op s
  | saved {info : RunInfo} :
      Performed cfg s (.service (.saveRunInfo info))
        (s.withStream (saveRunInfo s.world.stream info))
  | published {d : Directive} :
      Performed cfg s (.service (.publishDirective d))
        (s.withStream (publishDirective cfg.dup s.world.stream d))
  | registered {r : Registration} :
      Performed cfg s (.putTypes r) { s with registry := Registry.putTypes s.registry r }

theorem performed (cfg : Manager.Config) (faults : Faults) (s : Server) (op : Op) :
    Performed cfg s op (perform cfg faults s op).2 := by
  cases op with
  | service op =>
    cases op with
    | saveRunInfo info =>
      rw [perform, Service.answer]
      cases faults.saveRunInfo.within info.Taken with
      | refused => exact .nothing
      | stored => exact .saved
      | unconfirmed => exact .saved
    | publishDirective d =>
      rw [perform, Service.answer]
      cases faults.publishDirective.within d.subject.Taken with
      | refused => exact .nothing
      | stored => exact .published
      | unconfirmed => exact .published
    | _ => exact .nothing
  | putTypes r =>
    rw [perform]
    cases faults.putTypes.within r.Accepted with
    | refused => exact .nothing
    | stored => exact .registered
    | unconfirmed => exact .registered

/-- A call does not look at the requests. -/
theorem perform_withRequests (requests : List (Call Response)) :
    perform cfg faults { s with requests := requests } op =
      ((perform cfg faults s op).1, { (perform cfg faults s op).2 with requests := requests }) := by
  cases op <;> rfl

/-- A call after which a description may be saved was a lookup, and it has found no active run. -/
theorem vacant_of_perform {wf : WFID}
    (h : monitor.next q op (perform cfg faults s op).1 = some wf) :
    (perform cfg faults s op).2 = s ∧ NoActiveRun s.world.stream wf := by
  cases op with
  | putTypes r => cases h
  | service op =>
    cases op with
    | getRunByWFID wf' =>
      refine ⟨rfl, ?_⟩
      change Service.vacant? (.getRunByWFID wf')
        (Service.lookup faults.toFaults s.world.stream wf') = some wf at h
      rcases Service.lookup_cases faults.toFaults s.world.stream wf' with
        ⟨run, hrun, ha⟩ | ⟨hrun, ha⟩ | ⟨text, hrun, -⟩
      · rw [hrun, Service.vacant?] at h
        split_ifs at h with hterm
        cases h
        exact ⟨_, ha.2, by simp [hterm]⟩
      · rw [hrun, Service.vacant?] at h
        split_ifs at h
        cases h
        exact ⟨_, ha.2, by simp⟩
      · rw [hrun, Service.vacant?] at h
        simp [GoError.is] at h
    | _ => cases h

/-! ### A request that nothing interrupts -/

theorem reachable_publish (h : Reachable cfg w) {d : Directive} (hd : d.Decoded) :
    Reachable cfg { w with stream := publishDirective cfg.dup w.stream d } :=
  h.step (a := .publish d) trivial (if_pos hd)

/-- A run is admitted and saved in two steps. -/
theorem reachable_save (h : Reachable cfg w) {info : RunInfo}
    (hfree : NoActiveRun w.stream info.wfID) :
    Reachable cfg { w with stream := saveRunInfo w.stream info } := by
  have hadmit : step cfg w (.admitRun info) = some { w with admitted := w.admitted ++ [info] } :=
    if_pos hfree
  have hsave : step cfg { w with admitted := w.admitted ++ [info] } (.saveRun w.admitted.length) =
      some { w with stream := saveRunInfo w.stream info } := by
    simp [step, List.eraseIdx_append_of_length_le]
  exact (h.step trivial hadmit).step trivial hsave

/-- The world is one of the system, and a workflow that the last call has found vacant has no active
run. -/
structure Serves (cfg : Manager.Config) (q : Option WFID) (s : Server) : Prop where
  world : Reachable cfg s.world
  vacant : ∀ wf, q = some wf → NoActiveRun s.world.stream wf

theorem Serves.perform (h : Serves cfg q s) (hok : monitor.ok q op) :
    Serves cfg (monitor.next q op (perform cfg faults s op).1) (perform cfg faults s op).2 where
  world := by
    have hp := performed cfg faults s op
    generalize (Api.perform cfg faults s op).2 = s' at hp
    cases hp with
    | nothing => exact h.world
    | saved => exact reachable_save h.world (h.vacant _ hok)
    | published => exact reachable_publish h.world hok
    | registered => exact h.world
  vacant wf hwf := by
    obtain ⟨hsame, hvacant⟩ := vacant_of_perform hwf
    rwa [hsame]

theorem Serves.run {p : Call Response} (h : Serves cfg q s) (hp : Proper q p) :
    ∃ q', True ∧ Serves cfg q' (p.run (Api.perform cfg faults) s).2 :=
  Program.Safe.run hp h fun _ _ _ hok hs => hs.perform hok

theorem reachable_handler {req : Request} (h : Reachable cfg s.world) (hid : req.env.newID ≠ "")
    (doc : Document) : Reachable cfg (handler cfg req s doc).2.world := by
  have hserves : Serves cfg none s := ⟨h, by simp⟩
  obtain ⟨q, -, hs⟩ := hserves.run (safe_handling cfg hid req.order doc)
  exact hs.world

/-- What is left of the last request can be performed without an interruption. -/
theorem reach_run (faults : Faults) {rs : List (Call Response)} (p : Call Response)
    (h : ServerReachable cfg { s with requests := rs ++ [p] }) :
    ServerReachable cfg { (p.run (perform cfg faults) s).2 with requests := rs } := by
  induction p generalizing s with
  | done response =>
    refine h.step (a := .leave rs.length) (.of_none rfl) ?_
    simp [serverStep, List.eraseIdx_append_of_length_le]
  | call op next ih =>
    refine ih _ (h.step (a := .proceed rs.length faults) (.of_none rfl) ?_)
    simp [serverStep, perform_withRequests]

theorem requests_run (cfg : Manager.Config) (faults : Faults) (s : Server) (p : Call Response) :
    (p.run (perform cfg faults) s).2.requests = s.requests := by
  induction p generalizing s with
  | done response => rfl
  | call op next ih =>
    refine (ih _ _).trans ?_
    cases op <;> rfl

/-- A request that nothing interrupts is a run of the server. -/
theorem ServerReachable.handler {req : Request} (h : ServerReachable cfg s)
    (hid : req.env.newID ≠ "") (doc : Document) :
    ServerReachable cfg (handler cfg req s doc).2 := by
  have hfresh : (Action.receive req.env req.order doc).Fresh := fun _ h => Option.some.inj h ▸ hid
  have hreceived := h.step hfresh rfl
  have hrun := reach_run req.faults (handling cfg req.env req.order doc) hreceived
  rw [← requests_run cfg req.faults s (handling cfg req.env req.order doc)] at hrun
  exact hrun

/-! ### Requests that take turns -/

/-- With the runs admitted that requests are about to save, the world is one of the system. -/
def Admits (cfg : Manager.Config) (w : World) (runs : List RunInfo) : Prop :=
  ∃ admitted, admitted.Perm runs ∧ Reachable cfg { w with admitted := admitted }

namespace Admits

variable {runs runs' : List RunInfo} {info : RunInfo}

theorem perm (h : Admits cfg w runs) (hp : runs.Perm runs') : Admits cfg w runs' := by
  obtain ⟨admitted, hperm, hreach⟩ := h
  exact ⟨admitted, hperm.trans hp, hreach⟩

theorem publish (h : Admits cfg w runs) {d : Directive} (hd : d.Decoded) :
    Admits cfg { w with stream := publishDirective cfg.dup w.stream d } runs := by
  obtain ⟨admitted, hperm, hreach⟩ := h
  exact ⟨admitted, hperm, reachable_publish hreach hd⟩

theorem add (h : Admits cfg w runs) (hfree : NoActiveRun w.stream info.wfID) :
    Admits cfg w (info :: runs) := by
  obtain ⟨admitted, hperm, hreach⟩ := h
  refine ⟨admitted ++ [info], (List.perm_append_singleton ..).trans (hperm.cons info), ?_⟩
  exact hreach.step (a := .admitRun info) trivial (if_pos hfree)

theorem exists_getElem? (h : Admits cfg w (info :: runs)) :
    ∃ admitted k, admitted[k]? = some info ∧ (admitted.eraseIdx k).Perm runs ∧
      Reachable cfg { w with admitted := admitted } := by
  obtain ⟨admitted, hperm, hreach⟩ := h
  obtain ⟨k, hk, hinfo⟩ := List.getElem_of_mem (hperm.mem_iff.mpr List.mem_cons_self)
  refine ⟨admitted, k, by rw [List.getElem?_eq_getElem hk, hinfo], ?_, hreach⟩
  have hcons := List.getElem_cons_eraseIdx_perm hk
  rw [hinfo] at hcons
  exact (hcons.trans hperm).cons_inv

theorem save (h : Admits cfg w (info :: runs)) :
    Admits cfg { w with stream := saveRunInfo w.stream info } runs := by
  obtain ⟨admitted, k, hk, hperm, hreach⟩ := h.exists_getElem?
  refine ⟨_, hperm, hreach.step (a := .saveRun k) trivial ?_⟩
  simp only [step, hk]

theorem drop (h : Admits cfg w (info :: runs)) : Admits cfg w runs := by
  obtain ⟨admitted, k, -, hperm, hreach⟩ := h.exists_getElem?
  exact ⟨_, hperm, hreach.step (a := .dropRun k) trivial rfl⟩

theorem of_append (l : List RunInfo) (h : Admits cfg w (l ++ runs)) : Admits cfg w runs := by
  induction l with
  | nil => exact h
  | cons info l ih => exact ih h.drop

theorem step {a : Label} (h : Admits cfg w runs) (ha : a.isAdmission = false)
    (hstep : Grctl.step cfg w a = some w') :
    Admits cfg w' (if panics cfg w a then [] else runs) := by
  obtain ⟨admitted, hperm, hreach⟩ := h
  refine ⟨_, ?_, hreach.step trivial (step_withAdmitted ha hstep admitted)⟩
  split_ifs
  · exact .refl _
  · exact hperm

theorem reachable (h : Admits cfg w runs) (hw : w.admitted = []) : Reachable cfg w := by
  rw [← List.append_nil runs] at h
  obtain ⟨admitted, hperm, hreach⟩ := h.of_append runs
  cases hperm.eq_nil
  rwa [← hw] at hreach

end Admits

/-- The run whose description a request is about to save. -/
def saving? : Call Response → Option RunInfo
  | .call (.service (.saveRunInfo info)) _ => some info
  | _ => none

theorem Proper.saving {p : Call Response} {info : RunInfo} (h : Proper q p)
    (hp : saving? p = some info) : q = some info.wfID := by
  unfold saving? at hp
  split at hp <;> cases hp
  exact h.1

/-- A request makes a call. If it is about to save a description then, it has just found its
workflow without an active run. -/
theorem Admits.perform (faults : Faults) {next : op.Answer → Call Response} {runs : List RunInfo}
    (hproper : Proper q (.call op next))
    (h : Admits cfg s.world ((saving? (.call op next)).toList ++ runs)) :
    Admits cfg (perform cfg faults s op).2.world
      ((saving? (next (perform cfg faults s op).1)).toList ++ runs) := by
  have hcalled : Admits cfg (Api.perform cfg faults s op).2.world runs := by
    have hp := performed cfg faults s op
    generalize (Api.perform cfg faults s op).2 = s' at hp
    cases hp with
    | nothing => exact h.of_append _
    | saved => exact Admits.save h
    | published => exact Admits.publish h hproper.1
    | registered => exact h
  cases hsaving : saving? (next (Api.perform cfg faults s op).1) with
  | none => exact hcalled
  | some info =>
    have hnext := hproper.2 (Api.perform cfg faults s op).1
    obtain ⟨hsame, hfree⟩ := vacant_of_perform (Proper.saving hnext hsaving)
    refine hcalled.add ?_
    rwa [hsame]

/-- What holds of every server that is reached. -/
structure ServerSound (cfg : Manager.Config) (s : Server) : Prop where
  proper : ∀ p ∈ s.requests, ∃ q, Proper q p
  admitted : s.world.admitted = []
  runs : Admits cfg s.world (s.requests.filterMap saving?)
  registry : ∃ calls, s.registry = Registry.registered calls

theorem Performed.admitted (h : Performed cfg s op s') :
    s'.world.admitted = s.world.admitted := by
  cases h <;> rfl

theorem Performed.registry (h : Performed cfg s op s')
    (hs : ∃ calls, s.registry = Registry.registered calls) :
    ∃ calls, s'.registry = Registry.registered calls := by
  cases h with
  | @registered r =>
    obtain ⟨calls, hcalls⟩ := hs
    refine ⟨calls ++ [r], ?_⟩
    rw [hcalls, Registry.registered, Registry.registered, List.foldl_append]
    rfl
  | _ => exact hs

/-- Runs are admitted by requests only. -/
theorem admitted_of_step {a : Label} (ha : a.isAdmission = false) (h : step cfg w a = some w')
    (hw : w.admitted = []) : w'.admitted = [] := by
  have hframe := step_withAdmitted ha h w.admitted
  have heq := Option.some.inj (h.symm.trans hframe)
  rw [heq]
  split_ifs
  · rfl
  · exact hw

/-- The requests with one of them in front. -/
theorem filterMap_saving_perm {requests : List (Call Response)} {k : ℕ} {p : Call Response}
    (hp : requests[k]? = some p) :
    (requests.filterMap saving?).Perm
      ((saving? p).toList ++ (requests.eraseIdx k).filterMap saving?) := by
  obtain ⟨hk, rfl⟩ := List.getElem?_eq_some_iff.mp hp
  have hperm := (List.getElem_cons_eraseIdx_perm hk).symm.filterMap saving?
  rw [List.filterMap_cons] at hperm
  cases hsaving : saving? requests[k] <;> rwa [hsaving] at hperm

theorem ServerSound.step (h : ServerSound cfg s) {a : Action} (hfresh : a.Fresh)
    (hstep : serverStep cfg s a = some s') : ServerSound cfg s' := by
  cases a with
  | receive env order doc =>
    cases hstep
    have hproper : Proper none (handling cfg env order doc) := 
      safe_handling cfg (hfresh _ rfl) order doc
    refine ⟨fun p hp => ?_, h.admitted, ?_, h.registry⟩
    · rcases List.mem_append.mp hp with hp | hp
      · exact h.proper p hp
      · exact ⟨none, List.mem_singleton.mp hp ▸ hproper⟩
    · have hnone : saving? (handling cfg env order doc) = none := by
        cases hsaving : saving? (handling cfg env order doc) with
        | none => rfl
        | some info => cases hproper.saving hsaving
      have hruns := h.runs
      simpa [List.filterMap_append, hnone] using hruns
  | proceed k faults =>
    simp only [serverStep] at hstep
    split at hstep <;> cases hstep
    rename_i op next hk
    obtain ⟨q, hproper⟩ := h.proper _ (List.mem_of_getElem? hk)
    have hp := performed cfg faults s op
    refine ⟨fun p hpmem => ?_, hp.admitted.trans h.admitted, ?_, hp.registry h.registry⟩
    · rcases List.mem_or_eq_of_mem_set hpmem with hold | rfl
      · exact h.proper p hold
      · exact ⟨_, hproper.2 _⟩
    · have hset : (s.requests.set k (next (perform cfg faults s op).1))[k]? =
          some (next (perform cfg faults s op).1) :=
        List.getElem?_set_self (List.getElem?_eq_some_iff.mp hk).1
      have hcalled := Admits.perform faults hproper
        (h.runs.perm (filterMap_saving_perm hk))
      refine hcalled.perm ((filterMap_saving_perm hset).trans ?_).symm
      rw [List.eraseIdx_set_eq]
  | leave k =>
    cases hstep
    refine ⟨fun p hp => h.proper p (List.mem_of_mem_eraseIdx hp), h.admitted, ?_, h.registry⟩
    cases hk : s.requests[k]? with
    | none =>
      have hsame : s.requests.eraseIdx k = s.requests :=
        List.eraseIdx_of_length_le (List.getElem?_eq_none_iff.mp hk)
      rw [hsame]
      exact h.runs
    | some p => exact (h.runs.perm (filterMap_saving_perm hk)).of_append _
  | internal a =>
    simp only [serverStep] at hstep
    rcases Bool.eq_false_or_eq_true a.isAdmission with ha | ha
    · rw [if_pos ha] at hstep
      cases hstep
    · rw [if_neg (by simp [ha])] at hstep
      obtain ⟨w, hw, rfl⟩ := Option.map_eq_some_iff.mp hstep
      have hruns := h.runs.step ha hw
      refine ⟨fun p hp => ?_, admitted_of_step ha hw h.admitted, ?_, h.registry⟩
      · dsimp only at hp
        split_ifs at hp
        · cases hp
        · exact h.proper p hp
      · dsimp only
        split_ifs at hruns ⊢ <;> exact hruns

theorem serverSound_of_reachable (h : ServerReachable cfg s) : ServerSound cfg s :=
  Reach.invariant (P := ServerSound cfg) h
    ⟨by simp [Server.init], rfl, ⟨[], .refl _, .init⟩, [], rfl⟩
    fun _ _ _ _ hs hfresh hstep => hs.step hfresh hstep

/-- A server that is driven by requests refines the system: its world is a reachable one, and its
registry is what a sequence of registrations leaves. -/
theorem server_refines_world (h : ServerReachable cfg s) :
    Reachable cfg s.world ∧ ∃ calls, s.registry = Registry.registered calls := by
  have hs := serverSound_of_reachable h
  exact ⟨hs.runs.reachable hs.admitted, hs.registry⟩

namespace Sample

/-- A second run of the same workflow. -/
def otherCommand : Document :=
  sentCommand .runStart (.start { Grctl.Sample.run with id := "r2" } (.raw "in"))

/-- Two starts for one workflow that take turns, so that each of them finds it without a run. -/
def turns : List Action :=
  [.receive request.env request.order registration, .proceed 0 {}, .leave 0,
    .receive request.env request.order startCommand,
    .receive { request.env with newID := "other" } request.order otherCommand,
    .proceed 0 {}, .proceed 1 {}, .proceed 0 {}, .proceed 1 {}, .proceed 1 {}, .proceed 0 {},
    .proceed 0 {}, .proceed 1 {}, .leave 0, .leave 0]

/-- The server after them. -/
def server (actions : List Action) : Server :=
  execD (serverStep Grctl.Sample.config) (fun _ a => a.Fresh) .init actions

theorem reachable_server (actions : List Action) :
    ServerReachable Grctl.Sample.config (server actions) :=
  reach_execD ..

end Sample

/-- A server that has received a catalogue and two starts for one workflow. -/
theorem server_refines_world_started :
    (Sample.server Sample.turns).world.stream.length = 4 ∧
      Reachable Grctl.Sample.config (Sample.server Sample.turns).world ∧
      ∃ calls, (Sample.server Sample.turns).registry = Registry.registered calls :=
  ⟨by decide +kernel, server_refines_world (Sample.reachable_server Sample.turns)⟩

end Api

end Grctl
