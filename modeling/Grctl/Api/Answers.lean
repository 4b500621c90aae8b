import Grctl.Api.Handler
import Grctl.System.Results

/-!
# The answers of the API

The code of a failure says why a command was refused. Where the stream can be reached, a command is
refused with a code exactly if there is a reason for it, given the runs and the registered types at
that moment, in whatever order the map of the errors is searched.

A request that fails has not always failed completely. A publication that the stream does not
confirm may have been stored, and a start makes two publications.

The identifiers that a command looks up are names here, as in `Grctl.Natsreg.Lookup`.

## Main definitions

* `Api.Answered`: the outcomes of a command.
* `Api.Reason`: why a command is refused.
* `Api.LeftBehind`: what a request that fails can leave behind.

## Main results

* `Api.answered_handleMessage`: every command has one of the outcomes.
* `Api.answer_iff_reason`: a command is answered with a code exactly if there is a reason for it.
* `Api.failed_request_leaves`: what a failure leaves behind.
-/

namespace Grctl

open SubjectLog Lts

/-- The code that an error is answered with. -/
def GoError.code (e : GoError) : ℕ :=
  match e.chain with
  | [] => 5000
  | sentinel :: _ => (Api.apiErrorMap sentinel).code

/-- An error that wraps at most one exported error. -/
def GoError.Simple (e : GoError) : Prop := e.chain = [] ∨ ∃ sentinel, e.chain = [sentinel]

namespace Api

variable {cfg : Manager.Config} {req : Request} {s : Server} {cmd : Command}

/-! ### Codes -/

/-- With at most one exported error in the chain, the order of the search does not matter. -/
theorem code_newGrctlError {e : GoError} (he : e.Simple) {order : List Sentinel}
    (horder : ∀ sentinel, sentinel ∈ order) : (newGrctlError order e).code = e.code := by
  rcases he with hnil | ⟨sentinel, hchain⟩
  · have hfind : order.find? e.is = none := by simp [GoError.is, hnil]
    rw [newGrctlError, hfind, GoError.code, hnil]
  · have hfind : order.find? e.is = some sentinel := by
      have hsome : (order.find? e.is).isSome = true :=
        List.find?_isSome.mpr ⟨sentinel, horder sentinel, by simp [GoError.is, hchain]⟩
      obtain ⟨found, hfound⟩ := Option.isSome_iff_exists.mp hsome
      have his : e.is found = true := List.find?_some hfound
      rw [hfound]
      simpa [GoError.is, hchain] using his
    rw [newGrctlError, hfind, GoError.code, hchain]

@[simp] theorem simple_wrap {e : GoError} {context : String} :
    (e.wrap context).Simple ↔ e.Simple := Iff.rfl

@[simp] theorem code_wrap {e : GoError} {context : String} : (e.wrap context).code = e.code := rfl

@[simp] theorem simple_error (sentinel : Sentinel) : sentinel.error.Simple := .inr ⟨sentinel, rfl⟩

@[simp] theorem simple_withDetail (sentinel : Sentinel) (detail : String) :
    (sentinel.withDetail detail).Simple := .inr ⟨sentinel, rfl⟩

/-! ### Decoded commands -/

/-- A command that arrives is the zero command, or its message has the type of its kind. -/
theorem agrees_of_decodeCommand {doc : Document} {cmd : Command}
    (h : decodeCommand doc = .ok cmd) : cmd = .zero ∨ cmd.msg.agrees cmd.kind = true := by
  rw [decodeCommand] at h
  split at h
  · simp at h
  · split_ifs at h
    · cases h
      exact .inl rfl
    · simp only [bind_eq_ok, wrap_eq_ok, pure_eq_ok] at h
      obtain ⟨⟨kind, msg⟩, hdecode, rfl⟩ := h
      obtain ⟨-, doc', -, hmsg⟩ := decodeCmd_eq_ok_iff.mp hdecode
      exact .inr (agrees_of_unmarshalCmd hmsg)

/-! ### The outcomes of a command -/

/-- The workflow whose latest run a command concerns. -/
def target? : CommandMessage → Option WFID
  | .cancel wfID _ | .terminate wfID _ | .describe wfID | .event wfID _ _ => some wfID
  | _ => none

/-- The commands that publish a directive for an existing run. -/
def Commanding (kind : CmdKind) : Prop :=
  kind = .runCancel ∨ kind = .runTerminate ∨ kind = .runEvent

/-- The outcomes of a command: its result, and what has become of the server. -/
inductive Answered (cfg : Manager.Config) (req : Request) (s : Server) (cmd : Command) :
    Result (Option RunInfo) × Server → Prop
  | unknown (hkind : cmd.kind = .unset ∨ cmd.kind = .workerTerminateRun) :
      Answered cfg req s cmd (.error Sentinel.unknownAPICommand.error, s)
  | mismatched {detail : String} (hkind : cmd.kind ≠ .unset)
      (hmsg : cmd.msg.agrees cmd.kind = false) :
      Answered cfg req s cmd (.error (Sentinel.invalidMessageType.withDetail detail), s)
  | started {info : RunInfo} {input : Value} {r : Result Unit × Stream}
      (hkind : cmd.kind = .runStart) (hmsg : cmd.msg = .start info input)
      (h : Service.StartOutcome (req.faults.reader s.registry) cfg.defaults.stepTimeoutMS cfg.dup
        req.env req.faults.toFaults s.world.stream info input r) :
      Answered cfg req s cmd (r.1.map fun _ => none, s.withStream r.2)
  | commanded {wf : WFID} {r : Result Unit × Stream} (hkind : Commanding cmd.kind)
      (hmsg : target? cmd.msg = some wf)
      (h : Service.CommandOutcome cfg.dup req.env req.faults.toFaults s.world.stream wf r) :
      Answered cfg req s cmd (r.1.map fun _ => none, s.withStream r.2)
  | described {wf : WFID} {context : String} (hkind : cmd.kind = .runDescribe)
      (hmsg : cmd.msg = .describe wf) :
      Answered cfg req s cmd
        ((Service.inContext context
          (Service.lookup req.faults.toFaults s.world.stream wf)).map some, s)
  | nothing {workerID : String} (hkind : cmd.kind = .workerRegister)
      (hmsg : cmd.msg = .register workerID []) : Answered cfg req s cmd (.ok none, s)
  | registered {r : Registration} {p : Publication} (hkind : cmd.kind = .workerRegister)
      (hmsg : cmd.msg = .register r.workerID r.types)
      (hp : p = req.faults.putTypes.within r.Accepted) :
      Answered cfg req s cmd
        ((Service.told "failed to commit registry batch" p).map fun _ => none,
          { s with registry := p.after s.registry (Registry.putTypes s.registry r) })

section Answered

theorem run_noPayload (p : Call (Result Unit)) :
    (noPayload p).run (perform cfg req.faults) s =
      ((p.run (perform cfg req.faults) s).1.map fun _ => none,
        (p.run (perform cfg req.faults) s).2) :=
  Program.run_map ..

theorem answered_command {wf : WFID} {p : Service.Call (Result Unit)}
    (hkind : Commanding cmd.kind) (hmsg : target? cmd.msg = some wf)
    (h : Service.CommandOutcome cfg.dup req.env req.faults.toFaults s.world.stream wf
      (p.run (Service.answer (req.faults.reader s.registry) cfg.dup req.faults.toFaults)
        s.world.stream)) :
    Answered cfg req s cmd ((noPayload (lift p)).run (perform cfg req.faults) s) := by
  rw [run_noPayload, run_lift]
  exact .commanded hkind hmsg h

/-- Every command has one of the outcomes. -/
theorem answered_handleMessage (cfg : Manager.Config) (req : Request) (s : Server)
    (cmd : Command) :
    Answered cfg req s cmd
      ((handleMessage cfg req.env cmd).run (perform cfg req.faults) s) := by
  rw [handleMessage]
  cases hkind : cmd.kind with
  | unset => exact .unknown (.inl hkind)
  | workerTerminateRun => exact .unknown (.inr hkind)
  | runStart =>
    cases hmsg : cmd.msg with
    | start info input =>
      dsimp only
      rw [run_noPayload, run_lift]
      exact .started hkind hmsg (Service.startOutcome ..)
    | _ => exact .mismatched (by simp [hkind]) (by rw [hkind, hmsg]; rfl)
  | runCancel =>
    cases hmsg : cmd.msg with
    | cancel wf reason =>
      refine answered_command (.inl hkind) (by rw [hmsg]; rfl) ?_
      rw [Service.cancel, hmsg]
      exact Service.commandOutcome fun ri => ⟨_, rfl, rfl⟩
    | _ => exact .mismatched (by simp [hkind]) (by rw [hkind, hmsg]; rfl)
  | runTerminate =>
    cases hmsg : cmd.msg with
    | terminate wf reason =>
      refine answered_command (.inr (.inl hkind)) (by rw [hmsg]; rfl) ?_
      rw [Service.terminate, hmsg]
      exact Service.commandOutcome fun ri => ⟨_, rfl, rfl⟩
    | _ => exact .mismatched (by simp [hkind]) (by rw [hkind, hmsg]; rfl)
  | runEvent =>
    cases hmsg : cmd.msg with
    | event wf eventName payload =>
      refine answered_command (.inr (.inr hkind)) (by rw [hmsg]; rfl) ?_
      rw [Service.send, hmsg]
      exact Service.commandOutcome fun ri => ⟨_, rfl, rfl⟩
    | _ => exact .mismatched (by simp [hkind]) (by rw [hkind, hmsg]; rfl)
  | runDescribe =>
    cases hmsg : cmd.msg with
    | describe wf =>
      dsimp only
      rw [Program.run_map, run_lift]
      exact .described hkind hmsg
    | _ => exact .mismatched (by simp [hkind]) (by rw [hkind, hmsg]; rfl)
  | workerRegister =>
    cases hmsg : cmd.msg with
    | register workerID types =>
      dsimp only
      rw [run_noPayload, register]
      cases types with
      | nil => exact .nothing hkind hmsg
      | cons d types =>
        exact .registered (r := ⟨workerID, req.env.now, d :: types⟩) hkind hmsg rfl
    | _ => exact .mismatched (by simp [hkind]) (by rw [hkind, hmsg]; rfl)

theorem handler_of_decode {doc : Document} (hdoc : decodeCommand doc = .ok cmd) :
    handler cfg req s doc =
      (respond req.order ((handleMessage cfg req.env cmd).run (perform cfg req.faults) s).1,
        ((handleMessage cfg req.env cmd).run (perform cfg req.faults) s).2) := by
  rw [handler, handling, hdoc]
  exact Program.run_map ..

end Answered

/-! ### Reasons -/

/-- The calls of the request succeed. -/
def Request.Healthy (req : Request) : Prop :=
  req.faults = {}
  deriving Decidable

/-- A call fails with an error of a given code. -/
def Refused {α : Type} (r : Result α) (code : ℕ) : Prop :=
  ∃ e : GoError, r = .error e ∧ e.Simple ∧ e.code = code

section Refused

variable {α β : Type} {code : ℕ}

@[simp] theorem not_refused_ok {a : α} : ¬ Refused (.ok a : Result α) code := by
  simp [Refused]

@[simp] theorem refused_wrap {e : GoError} {context : String} :
    Refused (.error (e.wrap context) : Result α) code ↔ Refused (.error e : Result α) code := by
  simp [Refused]

@[simp] theorem refused_plain {text : String} :
    Refused (.error { message := text } : Result α) code ↔ code = 5000 := by
  simp [Refused, GoError.code, GoError.Simple, eq_comm]

@[simp] theorem refused_error (sentinel : Sentinel) :
    Refused (.error sentinel.error : Result α) code ↔ code = (apiErrorMap sentinel).code := by
  simp [Refused, GoError.code, Sentinel.error, GoError.Simple, eq_comm]

@[simp] theorem refused_withDetail (sentinel : Sentinel) (detail : String) :
    Refused (.error (sentinel.withDetail detail) : Result α) code ↔
      code = (apiErrorMap sentinel).code := by
  simp [Refused, GoError.code, Sentinel.withDetail, GoError.Simple, eq_comm]

theorem refused_map {r : Result α} {f : α → β} : Refused (r.map f) code ↔ Refused r code := by
  cases r <;> simp [Refused, Except.map]

end Refused

/-- Why a command is refused, and the code that says so; `find` looks up the latest run of a
workflow. -/
inductive Reason (find : WFID → Outcome (Option RunInfo)) (registry : RegistryLog) (cmd : Command) :
    ℕ → Prop
  | unknown (h : cmd.kind = .unset ∨ cmd.kind = .workerTerminateRun) : Reason find registry cmd 4000
  | alreadyRunning {info run : RunInfo} {input : Value} {entry : RegistryEntry}
      (hmsg : cmd.msg = .start info input)
      (htype : Registry.getType registry info.wfType = .ok entry)
      (hrun : find info.wfID = .ok (some run)) (hlive : run.status.isTerminal = false) :
      Reason find registry cmd 4001
  | notFound {wf : WFID} (hmsg : target? cmd.msg = some wf) (hrun : find wf = .ok none) :
      Reason find registry cmd 4002
  | terminal {wf : WFID} {run : RunInfo} (hmsg : target? cmd.msg = some wf)
      (hkind : cmd.kind ≠ .runDescribe) (hrun : find wf = .ok (some run))
      (hterm : run.status.isTerminal = true) : Reason find registry cmd 4003
  | notRegistered {info : RunInfo} {input : Value} (hmsg : cmd.msg = .start info input)
      (htext : SubjectText info.wfType)
      (htype : ∀ entry, Registry.getType registry info.wfType ≠ .ok entry) :
      Reason find registry cmd 4004
  | unusableType {info : RunInfo} {input : Value} (hmsg : cmd.msg = .start info input)
      (htext : ¬ SubjectText info.wfType) : Reason find registry cmd 5000
  | unusableRun {info : RunInfo} {input : Value} {entry : RegistryEntry}
      (hmsg : cmd.msg = .start info input)
      (htype : Registry.getType registry info.wfType = .ok entry)
      (hfree : ∀ run, find info.wfID = .ok (some run) → run.status.isTerminal = true)
      (htaken : ¬ info.Taken) : Reason find registry cmd 5000
  | unusableCatalogue {r : Registration} (hmsg : cmd.msg = .register r.workerID r.types)
      (h : ¬ r.Accepted) : Reason find registry cmd 5000

/-- The workflow that a command looks up. -/
def looksUp? : CommandMessage → Option WFID
  | .start info _ => some info.wfID
  | m => target? m

section Reasons

variable {find : WFID → Outcome (Option RunInfo)} {registry : RegistryLog} {code : ℕ}
  {o : Option RunInfo}

theorem looksUp?_of_target {m : CommandMessage} {wf : WFID} (h : target? m = some wf) :
    looksUp? m = some wf := by
  cases m <;> first | exact h | cases h

theorem Reason.congr {find' : WFID → Outcome (Option RunInfo)}
    (h : ∀ wf, looksUp? cmd.msg = some wf → find' wf = find wf)
    (hreason : Reason find registry cmd code) : Reason find' registry cmd code := by
  have hstart {info : RunInfo} {input : Value} (hmsg : cmd.msg = .start info input) :
      find' info.wfID = find info.wfID := h _ (by rw [hmsg]; rfl)
  cases hreason with
  | unknown h => exact .unknown h
  | alreadyRunning hmsg htype hrun hlive =>
    exact .alreadyRunning hmsg htype (hstart hmsg ▸ hrun) hlive
  | notFound hmsg hrun => exact .notFound hmsg (h _ (looksUp?_of_target hmsg) ▸ hrun)
  | terminal hmsg hkind hrun hterm =>
    exact .terminal hmsg hkind (h _ (looksUp?_of_target hmsg) ▸ hrun) hterm
  | notRegistered hmsg htext htype => exact .notRegistered hmsg htext htype
  | unusableType hmsg htext => exact .unusableType hmsg htext
  | unusableRun hmsg htype hfree htaken =>
    exact .unusableRun hmsg htype (hstart hmsg ▸ hfree) htaken
  | unusableCatalogue hmsg h => exact .unusableCatalogue hmsg h

theorem reason_iff_of_target {wf : WFID} (hmsg : target? cmd.msg = some wf)
    (hknown : cmd.kind ≠ .unset ∧ cmd.kind ≠ .workerTerminateRun) (ho : find wf = .ok o) :
    Reason find registry cmd code ↔ (o = none ∧ code = 4002) ∨
      (cmd.kind ≠ .runDescribe ∧ ∃ run, o = some run ∧ run.status.isTerminal = true ∧
        code = 4003) := by
  constructor
  · intro h
    cases h with
    | unknown h => exact absurd h (not_or.mpr hknown)
    | notFound h hrun =>
      cases hmsg.symm.trans h
      cases ho.symm.trans hrun
      exact .inl ⟨rfl, rfl⟩
    | terminal h hkind hrun hterm =>
      cases hmsg.symm.trans h
      cases ho.symm.trans hrun
      exact .inr ⟨hkind, _, rfl, hterm, rfl⟩
    | alreadyRunning h | notRegistered h | unusableType h | unusableRun h | unusableCatalogue h =>
      simp [h, target?] at hmsg
  · rintro (⟨rfl, rfl⟩ | ⟨hkind, run, rfl, hterm, rfl⟩)
    · exact .notFound hmsg ho
    · exact .terminal hmsg hkind ho hterm

/-- Why a start is refused. -/
def StartRefusal (registry : RegistryLog) (info : RunInfo) (o : Option RunInfo) (code : ℕ) : Prop :=
  (¬ SubjectText info.wfType ∧ code = 5000) ∨
  (SubjectText info.wfType ∧ (∀ entry, Registry.getType registry info.wfType ≠ .ok entry) ∧
    code = 4004) ∨
  (∃ entry, Registry.getType registry info.wfType = .ok entry) ∧
    ((∃ run, o = some run ∧ run.status.isTerminal = false ∧ code = 4001) ∨
      ((∀ run, o = some run → run.status.isTerminal = true) ∧ ¬ info.Taken ∧ code = 5000))

theorem reason_iff_of_start {info : RunInfo} {input : Value} (hmsg : cmd.msg = .start info input)
    (hkind : cmd.kind = .runStart) (ho : find info.wfID = .ok o) :
    Reason find registry cmd code ↔ StartRefusal registry info o code := by
  constructor
  · intro h
    cases h with
    | unknown h => simp [hkind] at h
    | alreadyRunning h htype hrun hlive =>
      cases hmsg.symm.trans h
      cases ho.symm.trans hrun
      exact .inr (.inr ⟨⟨_, htype⟩, .inl ⟨_, rfl, hlive, rfl⟩⟩)
    | notRegistered h htext htype =>
      cases hmsg.symm.trans h
      exact .inr (.inl ⟨htext, htype, rfl⟩)
    | unusableType h htext =>
      cases hmsg.symm.trans h
      exact .inl ⟨htext, rfl⟩
    | unusableRun h htype hfree htaken =>
      cases hmsg.symm.trans h
      exact .inr (.inr ⟨⟨_, htype⟩,
        .inr ⟨fun run hrun => hfree run (hrun ▸ ho), htaken, rfl⟩⟩)
    | notFound h | terminal h | unusableCatalogue h => simp [hmsg, target?] at h
  · rintro (⟨htext, rfl⟩ | ⟨htext, htype, rfl⟩ | ⟨⟨entry, htype⟩, ⟨run, rfl, hlive, rfl⟩ |
      ⟨hfree, htaken, rfl⟩⟩)
    · exact .unusableType hmsg htext
    · exact .notRegistered hmsg htext htype
    · exact .alreadyRunning hmsg htype ho hlive
    · refine .unusableRun hmsg htype (fun run hrun => hfree run ?_) htaken
      exact Except.ok.inj (ho.symm.trans hrun)

theorem reason_iff_of_unknown (hkind : cmd.kind = .unset ∨ cmd.kind = .workerTerminateRun)
    (hagrees : cmd = .zero ∨ cmd.msg.agrees cmd.kind = true) :
    Reason find registry cmd code ↔ code = 4000 := by
  have hmsg : target? cmd.msg = none ∧ (∀ info input, cmd.msg ≠ .start info input) ∧
      ∀ workerID types, cmd.msg ≠ .register workerID types := by
    rcases hagrees with rfl | hagrees
    · exact ⟨rfl, by simp [Command.zero], by simp [Command.zero]⟩
    · rcases hkind with hkind | hkind <;> rw [hkind] at hagrees <;>
        cases hmsg : cmd.msg <;> rw [hmsg] at hagrees <;> cases hagrees <;> simp [target?]
  constructor
  · intro h
    cases h with
    | unknown => rfl
    | notFound h | terminal h => simp [hmsg.1] at h
    | unusableCatalogue h => exact absurd h (hmsg.2.2 _ _)
    | alreadyRunning h | notRegistered h | unusableType h | unusableRun h =>
      exact absurd h (hmsg.2.1 _ _)
  · rintro rfl
    exact .unknown hkind

theorem reason_iff_of_register {r : Registration} (hkind : cmd.kind = .workerRegister)
    (hmsg : cmd.msg = .register r.workerID r.types) :
    Reason find registry cmd code ↔ ¬ r.Accepted ∧ code = 5000 := by
  constructor
  · intro h
    cases h with
    | unknown h => simp [hkind] at h
    | @unusableCatalogue r' hmsg' h =>
      have htypes : r.types = r'.types := by
        rw [hmsg] at hmsg'
        exact (CommandMessage.register.inj hmsg').2
      exact ⟨by rwa [Registration.Accepted, htypes], rfl⟩
    | notFound h | terminal h => simp [hmsg, target?] at h
    | alreadyRunning h | notRegistered h | unusableType h | unusableRun h => simp [hmsg] at h
  · rintro ⟨h, rfl⟩
    exact .unusableCatalogue hmsg h

end Reasons

/-! ### Refusals -/

section Refusals

variable {l : Stream} {wf : WFID} {o : Option RunInfo} {code : ℕ}

theorem exists_getRunByWFID (h : Reachable cfg s.world) (wf : WFID) :
    ∃ o, getRunByWFID s.world.stream wf = .ok o := by
  obtain ⟨runs, -, -, -, hwf, -⟩ := (keyed_of_reachableBy h).listRuns_spec
  exact ⟨_, hwf wf⟩

/-- The stream takes a description that is found in it. -/
theorem taken_of_getRunByWFID (h : Reachable cfg s.world) {run : RunInfo}
    (hrun : getRunByWFID s.world.stream wf = .ok (some run)) : run.Taken := by
  obtain ⟨m, hm, hsubject, hdata⟩ := mem_messages_of_getRunByWFID hrun
  obtain ⟨info, hinfo, hkey⟩ := keyed_of_reachableBy h m hm (isRunInfo_of_describes hsubject)
  cases hdata.symm.trans hinfo
  have htaken := taken_of_reachableBy h m hm
  rwa [hkey] at htaken

theorem getStartStepTimeout_cases (registry : RegistryLog) (wfType : WFType) :
    (∃ entry, Registry.getType registry wfType = .ok entry ∧
      Registry.getStartStepTimeout registry wfType = .ok entry.startStepTimeoutMS) ∨
    (SubjectText wfType ∧ (∀ entry, Registry.getType registry wfType ≠ .ok entry) ∧
      Registry.getStartStepTimeout registry wfType =
        .error Sentinel.workflowTypeNotRegistered.error) ∨
    (¬ SubjectText wfType ∧ (∀ entry, Registry.getType registry wfType ≠ .ok entry) ∧
      ∃ text, Registry.getStartStepTimeout registry wfType = .error { message := text }) := by
  rw [Registry.getStartStepTimeout, Registry.getType]
  by_cases htext : SubjectText wfType
  · rw [if_pos htext]
    cases registry.lastWhere (Registry.covers wfType) with
    | none => exact .inr (.inl ⟨htext, by simp, rfl⟩)
    | some e => exact .inl ⟨_, rfl, rfl⟩
  · rw [if_neg htext]
    exact .inr (.inr ⟨htext, by simp, _, rfl⟩)

theorem refused_startOutcome {registry : RegistryLog} {timeout : UInt32}
    {dup : Stream → DirectiveID → Bool} {env : Readings} {info : RunInfo} {input : Value}
    {r : Result Unit × Stream} (ho : getRunByWFID l info.wfID = .ok o)
    (h : Service.StartOutcome (Registry.reader registry) timeout dup env {} l info input r) :
    Refused r.1 code ↔ StartRefusal registry info o code := by
  have htypes := getStartStepTimeout_cases registry info.wfType
  have registered {t : UInt32}
      (ht : Registry.getStartStepTimeout registry info.wfType = .ok t) :
      ∃ entry, Registry.getType registry info.wfType = .ok entry := by
    rcases htypes with ⟨entry, hentry, -⟩ | ⟨-, -, herr⟩ | ⟨-, -, text, herr⟩
    · exact ⟨entry, hentry⟩
    · cases herr.symm.trans ht
    · cases herr.symm.trans ht
  have htext {entry : RegistryEntry} (hentry : Registry.getType registry info.wfType = .ok entry) :
      SubjectText info.wfType := by
    by_contra hnot
    rw [Registry.getType, if_neg hnot] at hentry
    cases hentry
  cases h with
  | notRegistered herr =>
    rcases htypes with ⟨entry, -, hok⟩ | ⟨htext, hnone, hsentinel⟩ | ⟨htext, hnone, text, hplain⟩
    · cases hok.symm.trans herr
    · cases hsentinel.symm.trans herr
      simp [StartRefusal, htext, hnone, apiErrorMap]
    · cases hplain.symm.trans herr
      simp [StartRefusal, htext, hnone]
  | notChecked hnot => exact absurd ⟨rfl, ho⟩ (hnot _)
  | running ht hrun hlive =>
    cases ho.symm.trans hrun.2
    obtain ⟨entry, hentry⟩ := registered ht
    have hlive : _ = false := hlive
    rw [RunInfo.isTerminal] at hlive
    simp [StartRefusal, htext hentry, hentry, hlive, apiErrorMap]
  | notSaved ht hvacant hsave =>
    obtain ⟨entry, hentry⟩ := registered ht
    obtain ⟨-, latest, hlatest, hall⟩ := hvacant
    cases ho.symm.trans hlatest
    have htaken : ¬ info.Taken := fun htaken => by
      rw [Publication.within, if_pos htaken] at hsave
      cases hsave
    have hfree : ∀ run, o = some run → run.status.isTerminal = true := fun run hrun =>
      hall run hrun
    have hnot : ¬ ∃ run, o = some run ∧ run.status.isTerminal = false ∧ code = 4001 := by
      rintro ⟨run, hrun, hlive, -⟩
      simp [hfree run hrun] at hlive
    simpa [StartRefusal, htext hentry, hentry, hnot, htaken] using fun _ => hfree
  | unconfirmed _ hsave => cases hsave
  | saved hsaves _ ht =>
    obtain ⟨entry, hentry⟩ := registered ht
    obtain ⟨latest, hlatest, hall⟩ := hsaves.free
    cases ho.symm.trans hlatest
    have hnot : ¬ ∃ run, o = some run ∧ run.status.isTerminal = false ∧ code = 4001 := by
      rintro ⟨run, hrun, hlive, -⟩
      have hterm : run.status.isTerminal = true := hall run hrun
      simp [hterm] at hlive
    have hok : (Service.inContext "failed to enqueue start directive"
        (Service.told "failed to publish directive" .stored)) = .ok () := rfl
    simp [StartRefusal, htext hentry, hentry, hnot, hsaves.taken, hok]

theorem refused_commandOutcome {dup : Stream → DirectiveID → Bool} {env : Readings}
    {r : Result Unit × Stream} (ho : getRunByWFID l wf = .ok o)
    (htaken : ∀ run, o = some run → run.Taken)
    (h : Service.CommandOutcome dup env {} l wf r) :
    Refused r.1 code ↔ (o = none ∧ code = 4002) ∨
      ∃ run, o = some run ∧ run.status.isTerminal = true ∧ code = 4003 := by
  cases h with
  | notFound ha =>
    cases ho.symm.trans ha.2
    simp [apiErrorMap]
  | notChecked hnot => exact absurd ⟨rfl, ho⟩ (hnot _)
  | terminal ha hterm =>
    cases ho.symm.trans ha.2
    simp [hterm, apiErrorMap]
  | @published run kind msg name d p ha hlive hd _ hp =>
    cases ho.symm.trans ha.2
    have hstored : p = .stored := by
      rw [hp, hd]
      exact if_pos (htaken run rfl).texts
    have hok : Service.inContext ("failed to enqueue " ++ name ++ " directive")
        (Service.told "failed to publish directive" p) = .ok () := by
      rw [Service.inContext_eq_ok, Service.told_eq_ok, hstored]
    simp [hok, hlive]

theorem refused_lookup {context : String} (ho : getRunByWFID l wf = .ok o) :
    Refused (Service.inContext context (Service.lookup {} l wf)) code ↔
      o = none ∧ code = 4002 := by
  rw [Service.lookup, ho]
  cases o with
  | none =>
    change Refused (.error (GoError.wrap context Sentinel.workflowRunNotFound.error)) code ↔ _
    simp [apiErrorMap]
  | some run =>
    change Refused (.ok run) code ↔ _
    simp

/-- A command that arrives is refused with a code exactly if there is a reason for it. -/
theorem refused_iff_reason (code : ℕ) (h : Reachable cfg s.world) (hreq : req.Healthy)
    (hcmd : cmd = .zero ∨ cmd.msg.agrees cmd.kind = true)
    {r : Result (Option RunInfo) × Server} (hr : Answered cfg req s cmd r) :
    Refused r.1 code ↔ Reason (getRunByWFID s.world.stream) s.registry cmd code := by
  have hfaults : req.faults = {} := hreq
  cases hr with
  | unknown hkind =>
    rw [reason_iff_of_unknown hkind hcmd]
    simp [apiErrorMap]
  | mismatched hkind hmsg =>
    rcases hcmd with rfl | hagrees
    · exact absurd rfl hkind
    · cases hmsg.symm.trans hagrees
  | @started info input _ hkind hmsg hout =>
    obtain ⟨o, ho⟩ := exists_getRunByWFID h info.wfID
    rw [hfaults] at hout
    rw [reason_iff_of_start hmsg hkind ho, ← refused_startOutcome ho hout]
    exact refused_map
  | @commanded wf _ hkind hmsg hout =>
    obtain ⟨o, ho⟩ := exists_getRunByWFID h wf
    rw [hfaults] at hout
    have hknown : cmd.kind ≠ .unset ∧ cmd.kind ≠ .workerTerminateRun ∧
        cmd.kind ≠ .runDescribe := by
      rcases hkind with hkind | hkind | hkind <;> simp [hkind]
    rw [reason_iff_of_target hmsg ⟨hknown.1, hknown.2.1⟩ ho]
    refine refused_map.trans ((refused_commandOutcome ho (fun run hrun => ?_) hout).trans ?_)
    · exact taken_of_getRunByWFID h (hrun ▸ ho)
    · simp [hknown.2.2]
  | @described wf _ hkind hmsg =>
    obtain ⟨o, ho⟩ := exists_getRunByWFID h wf
    have htarget : target? cmd.msg = some wf := by rw [hmsg]; rfl
    rw [reason_iff_of_target htarget (by simp [hkind]) ho, hfaults]
    simp only [hkind, ne_eq, not_true_eq_false, false_and, or_false]
    exact refused_map.trans (refused_lookup ho)
  | @nothing workerID hkind hmsg =>
    rw [reason_iff_of_register (r := ⟨workerID, 0, []⟩) hkind hmsg]
    simp [Registration.Accepted]
  | registered hkind hmsg hp =>
    rw [reason_iff_of_register hkind hmsg, hp, hfaults]
    refine refused_map.trans ?_
    rw [Publication.within]
    split_ifs with haccepted
    · have hok : Service.told "failed to commit registry batch" .stored = .ok () := rfl
      simp [hok, haccepted]
    · simp [Service.told, Publication.error?, haccepted]

end Refusals

/-! ### The errors of a command -/

section Errors

variable {e : GoError}

theorem simple_of_told {context : String} {p : Publication}
    (h : Service.told context p = .error e) : e.Simple := by
  cases p <;> cases h <;> exact .inl rfl

theorem simple_of_inContext {α : Type} {context : String} {r : Result α}
    (hr : ∀ e, r = .error e → e.Simple) (h : Service.inContext context r = .error e) :
    e.Simple := by
  cases r with
  | ok a => cases h
  | error e' =>
    cases h
    exact simple_wrap.mpr (hr e' rfl)

theorem simple_of_reader {faults : Faults} {registry : RegistryLog} {wfType : WFType}
    (h : (faults.reader registry).getStartStepTimeout wfType = .error e) : e.Simple := by
  rw [Faults.reader] at h
  split at h
  · rcases getStartStepTimeout_cases registry wfType with ⟨_, -, ht⟩ | ⟨-, -, ht⟩ | ⟨-, -, _, ht⟩
    · cases ht.symm.trans h
    · cases ht.symm.trans h
      exact simple_error _
    · cases ht.symm.trans h
      exact .inl rfl
  · cases h
    exact .inl rfl

theorem simple_of_lookup {faults : Service.Faults} {l : Stream} {wf : WFID}
    (h : Service.lookup faults l wf = .error e) : e.Simple := by
  rcases Service.lookup_cases faults l wf with ⟨_, hrun, -⟩ | ⟨hnone, -⟩ | ⟨_, htext, -⟩
  · cases hrun.symm.trans h
  · cases hnone.symm.trans h
    exact simple_error _
  · cases htext.symm.trans h
    exact .inl rfl

theorem eq_error_of_map {α β : Type} {f : α → β} {r : Result α} (h : r.map f = .error e) :
    r = .error e := by
  cases r with
  | ok a => cases h
  | error e' =>
    cases h
    rfl

/-- Whatever goes wrong, the error of a command wraps at most one exported error. -/
theorem simple_of_answered {r : Result (Option RunInfo) × Server} (h : Answered cfg req s cmd r)
    (he : r.1 = .error e) : e.Simple := by
  cases h with
  | unknown =>
    cases he
    exact simple_error _
  | mismatched =>
    cases he
    exact simple_withDetail ..
  | started _ _ hout =>
    cases hout with
    | notRegistered ht =>
      cases he
      exact simple_of_reader ht
    | running =>
      cases he
      exact simple_withDetail ..
    | saved => exact simple_of_inContext (fun _ => simple_of_told) (eq_error_of_map he)
    | _ =>
      cases he
      exact .inl rfl
  | commanded _ _ hout =>
    cases hout with
    | notFound =>
      cases he
      exact simple_wrap.mpr (simple_error _)
    | notChecked =>
      cases he
      exact .inl rfl
    | terminal =>
      cases he
      exact simple_error _
    | published => exact simple_of_inContext (fun _ => simple_of_told) (eq_error_of_map he)
  | described => exact simple_of_inContext (fun _ => simple_of_lookup) (eq_error_of_map he)
  | nothing => cases he
  | registered => exact simple_of_told (eq_error_of_map he)

end Errors

/-! ### Answers -/

/-- Where the stream can be reached, a command that arrives is answered with a code exactly if there
is a reason for it, whichever entry of the map of the errors comes up first. The workflow that the
command looks up is a name, and the identifiers of the stored descriptions have no braces. -/
theorem answer_iff_reason (h : Reachable cfg s.world)
    (hplain : ∀ m ∈ s.world.stream.messages, m.subject.Plain) (hreq : req.Healthy)
    (horder : ∀ sentinel, sentinel ∈ req.order) {doc : Document}
    (hdoc : decodeCommand doc = .ok cmd) (hname : ∀ wf, looksUp? cmd.msg = some wf → IsName wf)
    (it it' : Iteration) (code : ℕ) :
    (∃ e, (handler cfg req s doc).1 = .failure e ∧ e.code = code) ↔
      Reason (Lookup.getRunByWFID it it' s.world.stream) s.registry cmd code := by
  have hlegible : Legible s.world.stream := fun m hm => ⟨taken_of_reachableBy h m hm, hplain m hm⟩
  have hfind (wf : WFID) (hwf : looksUp? cmd.msg = some wf) :
      Lookup.getRunByWFID it it' s.world.stream wf = getRunByWFID s.world.stream wf :=
    hlegible.getRunByWFID_eq it it' (hname wf hwf)
  have hanswered := answered_handleMessage cfg req s cmd
  have hiff := refused_iff_reason code h hreq (agrees_of_decodeCommand hdoc) hanswered
  rw [handler_of_decode hdoc]
  generalize (handleMessage cfg req.env cmd).run (perform cfg req.faults) s = r at hiff hanswered ⊢
  have hcodes : (∃ e, respond req.order r.1 = .failure e ∧ e.code = code) ↔ Refused r.1 code := by
    rcases r with ⟨e | payload, s'⟩
    · have he : e.Simple := simple_of_answered hanswered rfl
      simp [respond, Refused, he, code_newGrctlError he horder]
    · simp [respond]
  rw [hcodes, hiff]
  exact ⟨Reason.congr hfind, Reason.congr fun wf hwf => (hfind wf hwf).symm⟩

namespace Sample

/-- A request whose calls all succeed. -/
def request : Request where
  env := Grctl.Sample.env
  order := [.invalidMessageType, .workflowTypeNotRegistered, .runTerminal, .workflowRunNotFound,
    .workflowAlreadyRunning, .unknownAPICommand]

/-- A command of a client. -/
def command (kind : CmdKind) (msg : CommandMessage) : Command where
  id := "c1"
  kind := kind
  msg := msg
  senderID := "client"

/-- The command as it arrives. -/
def sentCommand (kind : CmdKind) (msg : CommandMessage) : Document :=
  commandWire.encode (command kind msg).wire

/-- The registration of one type. -/
def registration : Document :=
  sentCommand .workerRegister (.register "worker" [⟨"order", "start", ["start"], [], [], 0⟩])

/-- A server that has received it. -/
def registered : Server := (handler Grctl.Sample.config request .init registration).2

/-- A start of a run of that type. -/
def startCommand : Document := sentCommand .runStart (.start Grctl.Sample.run (.raw "in"))

end Sample

/-- A cancellation of a run that has ended. -/
theorem answer_iff_reason_ended :
    ∃ e, (handler Grctl.Sample.config Sample.request
        { world := Grctl.Sample.world Grctl.Sample.terminated, registry := .empty }
        (Sample.sentCommand .runCancel (.cancel "wf" "late"))).1 = .failure e ∧ e.code = 4003 := by
  have hreach := Grctl.Sample.reachable_world Grctl.Sample.terminated
  have hdoc : decodeCommand (Sample.sentCommand .runCancel (.cancel "wf" "late")) =
      .ok (Sample.command .runCancel (.cancel "wf" "late")) := by decide +kernel
  have hname : ∀ wf, looksUp? (Sample.command .runCancel (.cancel "wf" "late")).msg = some wf →
      IsName wf := by
    rintro wf ⟨⟩
    decide +kernel
  have hlegible : Legible (Grctl.Sample.world Grctl.Sample.terminated).stream := by decide +kernel
  have hhealthy : Sample.request.Healthy := rfl
  obtain ⟨run, hrun, hterm⟩ : ∃ run, getRunByWFID
      (Grctl.Sample.world Grctl.Sample.terminated).stream "wf" = .ok (some run) ∧
        run.status.isTerminal = true :=
    ⟨_, rfl, rfl⟩
  rw [← hlegible.getRunByWFID_eq .written .reversed (by decide +kernel)] at hrun
  exact (answer_iff_reason (s := ⟨_, .empty, []⟩) hreach (by decide +kernel) hhealthy
    (fun sentinel => by cases sentinel <;> decide) hdoc hname .written .reversed 4003).mpr
      (.terminal rfl (by decide) hrun hterm)

/-! ### What a failure leaves behind -/

/-- What a request that fails can leave behind: the description of a run that was to be started,
alone or with its directive, the directive of a command, or a catalogue. -/
inductive LeftBehind (cfg : Manager.Config) (req : Request) (s : Server) (cmd : Command) :
    Server → Prop
  | described {info : RunInfo} {input : Value} (hmsg : cmd.msg = .start info input)
      (hfree : NoActiveRun s.world.stream info.wfID) (htaken : info.Taken)
      (hfault : (∃ text, req.faults.saveRunInfo = .unconfirmed text) ∨
        req.faults.saveRunInfo = .stored ∧ ∃ text, req.faults.publishDirective = .refused text) :
      LeftBehind cfg req s cmd (s.withStream (s.world.stream.append (runInfoMessage info)))
  | started {info : RunInfo} {input : Value} {registered : UInt32} {text : String}
      (hmsg : cmd.msg = .start info input) (hfree : NoActiveRun s.world.stream info.wfID)
      (htaken : info.Taken) (hsave : req.faults.saveRunInfo = .stored)
      (hfault : req.faults.publishDirective = .unconfirmed text) :
      LeftBehind cfg req s cmd (s.withStream
        (publishDirective cfg.dup (s.world.stream.append (runInfoMessage info))
          (Service.startDirective registered cfg.defaults.stepTimeoutMS req.env info input)))
  | commanded {wf : WFID} {run : RunInfo} {kind : DirectiveKind} {msg : DirectiveMessage}
      {text : String} (hmsg : target? cmd.msg = some wf)
      (hrun : getRunByWFID s.world.stream wf = .ok (some run))
      (hlive : run.status.isTerminal = false)
      (hfault : req.faults.publishDirective = .unconfirmed text) :
      LeftBehind cfg req s cmd (s.withStream (publishDirective cfg.dup s.world.stream
        (Service.commandDirective req.env kind run msg)))
  | registered {r : Registration} {text : String} (hmsg : cmd.msg = .register r.workerID r.types)
      (haccepted : r.Accepted) (hfault : req.faults.putTypes = .unconfirmed text) :
      LeftBehind cfg req s cmd { s with registry := Registry.putTypes s.registry r }

section LeftBehind

variable {s' : Server}

/-- A start that fails. -/
theorem leftBehind_of_startOutcome {info : RunInfo} {input : Value} {r : Result Unit × Stream}
    {e : GoError} (hmsg : cmd.msg = .start info input)
    (h : Service.StartOutcome (req.faults.reader s.registry) cfg.defaults.stepTimeoutMS cfg.dup
      req.env req.faults.toFaults s.world.stream info input r) (he : r.1 = .error e) :
    r.2 = s.world.stream ∨ LeftBehind cfg req s cmd (s.withStream r.2) := by
  cases h with
  | unconfirmed hsaves hsave =>
    exact .inr (.described hmsg hsaves.free hsaves.taken (.inl ⟨_, hsave⟩))
  | saved hsaves hsave _ hd =>
    subst hd
    cases hpublish : req.faults.publishDirective with
    | stored =>
      rw [hpublish] at he
      cases he
    | refused text =>
      exact .inr (.described hmsg hsaves.free hsaves.taken (.inr ⟨hsave, _, hpublish⟩))
    | unconfirmed text =>
      exact .inr (.started hmsg hsaves.free hsaves.taken hsave hpublish)
  | _ => exact .inl rfl

/-- A command that fails. -/
theorem leftBehind_of_commandOutcome {wf : WFID} {r : Result Unit × Stream} {e : GoError}
    (hmsg : target? cmd.msg = some wf)
    (h : Service.CommandOutcome cfg.dup req.env req.faults.toFaults s.world.stream wf r)
    (he : r.1 = .error e) :
    r.2 = s.world.stream ∨ LeftBehind cfg req s cmd (s.withStream r.2) := by
  cases h with
  | published hrun hlive hd _ hp =>
    rcases Publication.eq_or_refused_of_within hp.symm with ⟨-, rfl⟩ | ⟨text, rfl⟩
    · subst hd
      cases hpublish : req.faults.publishDirective with
      | stored =>
        rw [hpublish] at he
        cases he
      | refused text => exact .inl rfl
      | unconfirmed text => exact .inr (.commanded hmsg hrun.2 hlive hpublish)
    · exact .inl rfl
  | _ => exact .inl rfl

/-- A command that is answered with an error. -/
theorem leftBehind_of_answered {r : Result (Option RunInfo) × Server} {e : GoError}
    (h : Answered cfg req s cmd r) (he : r.1 = .error e) :
    r.2 = s ∨ LeftBehind cfg req s cmd r.2 := by
  have same {l : Stream} (hl : l = s.world.stream ∨ LeftBehind cfg req s cmd (s.withStream l)) :
      s.withStream l = s ∨ LeftBehind cfg req s cmd (s.withStream l) := by
    rcases hl with rfl | hl
    · exact .inl rfl
    · exact .inr hl
  cases h with
  | started _ hmsg hout => exact same (leftBehind_of_startOutcome hmsg hout (eq_error_of_map he))
  | commanded _ hmsg hout =>
    exact same (leftBehind_of_commandOutcome hmsg hout (eq_error_of_map he))
  | registered _ hmsg hp =>
    rcases Publication.eq_or_refused_of_within hp.symm with ⟨haccepted, rfl⟩ | ⟨text, rfl⟩
    · cases hput : req.faults.putTypes with
      | stored =>
        rw [hput] at he
        cases he
      | refused text => exact .inl rfl
      | unconfirmed text => exact .inr (.registered hmsg haccepted hput)
    · exact .inl rfl
  | _ => exact .inl rfl

/-- A request that fails leaves the server as it was, except where a publication was stored and is
reported as failed, or where the directive of a start is refused after the description of the run
has been saved. -/
theorem failed_request_leaves {doc : Document} {e : GrctlError}
    (h : handler cfg req s doc = (.failure e, s')) :
    s' = s ∨ ∃ cmd, decodeCommand doc = .ok cmd ∧ LeftBehind cfg req s cmd s' := by
  cases hdoc : decodeCommand doc with
  | error fault =>
    left
    rw [handler, handling, hdoc] at h
    cases fault <;> cases h <;> rfl
  | ok cmd =>
    have hanswered := answered_handleMessage cfg req s cmd
    rw [handler_of_decode hdoc] at h
    generalize (handleMessage cfg req.env cmd).run (perform cfg req.faults) s = r at hanswered h
    obtain ⟨hresponse, rfl⟩ := Prod.mk.inj h
    obtain ⟨e, he⟩ : ∃ e, r.1 = .error e := by
      cases hr : r.1 with
      | error e => exact ⟨e, rfl⟩
      | ok payload => simp [hr, respond] at hresponse
    rcases leftBehind_of_answered hanswered he with hs | hleft
    · exact .inl hs
    · exact .inr ⟨cmd, rfl, hleft⟩

end LeftBehind

/-- A start whose publications are both stored and the second of which is not confirmed. -/
theorem failed_request_leaves_unconfirmed :
    ∃ e s', handler Grctl.Sample.config
        { Sample.request with faults := { publishDirective := .unconfirmed "nats: timeout" } }
        Sample.registered Sample.startCommand = (.failure e, s') ∧
      s'.world.stream.length = 2 ∧
      ∃ cmd, decodeCommand Sample.startCommand = .ok cmd ∧
        LeftBehind Grctl.Sample.config
          { Sample.request with faults := { publishDirective := .unconfirmed "nats: timeout" } }
          Sample.registered cmd s' := by
  obtain ⟨e, s', h, hlength⟩ : ∃ e s', handler Grctl.Sample.config
      { Sample.request with faults := { publishDirective := .unconfirmed "nats: timeout" } }
      Sample.registered Sample.startCommand = (.failure e, s') ∧ s'.world.stream.length = 2 :=
    ⟨_, _, rfl, rfl⟩
  refine ⟨e, s', h, hlength, (failed_request_leaves h).resolve_left ?_⟩
  rintro rfl
  cases hlength

end Api

end Grctl
