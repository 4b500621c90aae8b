import Grctl.Run.Dispatch
import Grctl.Run.Service
import Grctl.Run.Turn

/-!
# Configured default timeouts

A server is configured with the timeouts of steps and waits that name none themselves
(`config/config.go`). They are durations in nanoseconds; the run manager and the run service keep
them as 32-bit numbers of milliseconds (`server/server.go`, `run/service.go`), and a timer is set
with the number turned back into a duration. `Config.Validate` only asks for positive durations.

The conversion loses nothing but fractions of a millisecond exactly for the durations from one
millisecond up to `2 ^ 32` milliseconds (`toUint32_milliseconds_iff`), which are about 49 days.
Below, the number of milliseconds is `0`, and a timer expires when it is set; above, it wraps.

## Main definitions

* `Duration`, `Config`, `Config.validate`, `Config.managerDefaults`.
* `SetByDefault c timer duration`: a timer that is set for a configured duration.

## Main results

* `Config.pos_of_validate`: what validation ensures.
* `SetByDefault.duration_eq`: the time such a timer runs for.
* `default_timeout_honoured_iff`: when that is the configured duration.
-/

namespace Grctl

/-- `time.Duration`, in nanoseconds. -/
abbrev Duration := ℤ

/-- `Duration.Milliseconds`, truncated towards zero. -/
def Duration.milliseconds (d : Duration) : ℤ := d.tdiv 1000000

/-- `uint32(x)`: the low 32 bits. -/
def toUint32 (x : ℤ) : UInt32 := UInt32.ofNat (x % 4294967296).toNat

/-- `NATSConfig`, as far as it is validated. -/
structure NATSConfig where
  mode : String
  url : String := ""
  port : ℤ := 0
  storeDir : String := ""
  syncInterval : String
  storage : String
  deriving DecidableEq, Repr

/-- `DefaultsConfig`. -/
structure DefaultsConfig where
  stepTimeout : Duration
  waitTimeout : Duration
  deriving DecidableEq, Repr

/-- `Config`, as far as it is validated. -/
structure Config where
  nats : NATSConfig
  defaults : DefaultsConfig
  deriving DecidableEq, Repr

/-- `NATSModeEmbedded`. -/
def natsModeEmbedded : String := "embedded"

/-- `NATSModeExternal`. -/
def natsModeExternal : String := "external"

section Validate

variable (parseDuration : String → Option Duration)

/-- The mode and the settings that it needs. -/
def NATSConfig.validateMode (n : NATSConfig) : Outcome Unit :=
  if n.mode = natsModeEmbedded then
    if n.port < 1 ∨ n.port > 65535 then
      fail "port must be in range 1..65535 for embedded mode"
    else if n.storeDir = "" then fail "nats.store_dir must be non-empty in embedded mode"
    else .ok ()
  else if n.mode = natsModeExternal then
    if n.url = "" then fail "nats.url is required for external mode" else .ok ()
  else
    fail ("nats.mode must be " ++ quoted natsModeEmbedded ++ " or " ++ quoted natsModeExternal)

/-- `validateSyncInterval`; how durations are written is the parameter. -/
def validateSyncInterval (s : String) : Outcome Unit :=
  if s = "always" then .ok ()
  else match parseDuration s with
    | some _ => .ok ()
    | none =>
      fail ("nats.sync_interval must be \"always\" or a valid duration (e.g. \"1s\"), got " ++
        quoted s)

/-- `Config.Validate`. -/
def Config.validate (c : Config) : Outcome Unit := do
  c.nats.validateMode
  validateSyncInterval parseDuration c.nats.syncInterval
  if c.nats.storage ≠ "memory" ∧ c.nats.storage ≠ "file" then
    fail "nats.storage must be \"memory\" or \"file\""
  else if c.defaults.stepTimeout ≤ 0 then fail "defaults.step_timeout must be positive"
  else if c.defaults.waitTimeout ≤ 0 then fail "defaults.wait_timeout must be positive"
  else .ok ()

end Validate

/-- The default timeouts that `NewServer` gives to the run manager. -/
def Config.managerDefaults (c : Config) : Defaults where
  stepTimeoutMS := toUint32 c.defaults.stepTimeout.milliseconds
  waitTimeoutMS := toUint32 c.defaults.waitTimeout.milliseconds

/-- `StartRun` of a server: the service converts the default step timeout itself. -/
def Config.startRun (c : Config) (env : Readings) (runInfo : RunInfo) (input : Value) :
    Service.Call (Result Unit) :=
  Service.startRun (toUint32 c.defaults.stepTimeout.milliseconds) env runInfo input

/-- A timer that the server sets for a configured duration: of a step or an event without a
timeout, of a wait without one, or of the first step of a run whose workflow type is registered
without one. -/
inductive SetByDefault (c : Config) : Timer → Duration → Prop
  | step {env : Readings} {d : Directive} {cur : RunState} {stepName : String}
      {records : List Record} {timer : Timer} (hmsg : d.msg.dispatchable? = some (stepName, 0))
      (h : Records.stepStart env d cur c.managerDefaults.stepTimeoutMS = .ok records)
      (htimer : Record.timer timer ∈ records) : SetByDefault c timer c.defaults.stepTimeout
  | event {env : Readings} {d : Directive} {e : Event} {cur : RunState} {records : List Record}
      {timer : Timer} (hmsg : d.msg = .event e) (htimeout : e.timeout = 0)
      (h : Records.eventStart env d cur c.managerDefaults.stepTimeoutMS = .ok records)
      (htimer : Record.timer timer ∈ records) : SetByDefault c timer c.defaults.stepTimeout
  | wait {env : Readings} {d : Directive} {sn : StateSnapshot} {timeoutStepName : String}
      {records : List Record} {timer : Timer} (hmsg : d.msg = .wait 0 timeoutStepName)
      (h : Records.wait env d sn c.managerDefaults.waitTimeoutMS = .ok records)
      (htimer : Record.timer timer ∈ records) : SetByDefault c timer c.defaults.waitTimeout
  | start {registry : Service.Registry} {dup : Stream → DirectiveID → Bool}
      {faults : Service.Faults} {startEnv env : Readings} {l : Stream} {runInfo : RunInfo}
      {input : Value} {d : Directive} {records : List Record} {timer : Timer}
      (hregistered : registry.getStartStepTimeout runInfo.wfType = .ok 0)
      (hstart : .publishDirective d ∈
        (c.startRun startEnv runInfo input).trace (Service.answer registry dup faults) l)
      (h : planFromRunStart c.managerDefaults env d = .ok records)
      (htimer : Record.timer timer ∈ records) : SetByDefault c timer c.defaults.stepTimeout

section Conversion

variable {c : Config} {timer : Timer} {d : Duration}

/-- Validation accepts positive timeouts only. -/
theorem Config.pos_of_validate {parseDuration : String → Option Duration}
    (h : c.validate parseDuration = .ok ()) :
    0 < c.defaults.stepTimeout ∧ 0 < c.defaults.waitTimeout := by
  simp only [validate, bind_eq_ok] at h
  obtain ⟨_, -, _, -, h⟩ := h
  split_ifs at h with hstorage hstep hwait
  · cases h
  · cases h
  · cases h
  · exact ⟨Int.not_le.1 hstep, Int.not_le.1 hwait⟩

theorem toNat_toUint32 (x : ℤ) : ((toUint32 x).toNat : ℤ) = x % 4294967296 := by
  have hpos : 0 ≤ x % 4294967296 := by omega
  have hlt : (x % 4294967296).toNat < 2 ^ 32 := by omega
  rw [toUint32, UInt32.toNat_ofNat_of_lt' hlt, Int.toNat_of_nonneg hpos]

/-- The conversion keeps the whole milliseconds of a duration, and is not zero, exactly for
durations of at least one and less than `2 ^ 32` milliseconds. -/
theorem toUint32_milliseconds_iff (d : ℤ) :
    (((toUint32 (Duration.milliseconds d)).toNat : ℤ) = Duration.milliseconds d ∧
        0 < ((toUint32 (Duration.milliseconds d)).toNat : ℤ)) ↔
      1000000 ≤ d ∧ d < 4294967296 * 1000000 := by
  rw [toNat_toUint32, Duration.milliseconds]
  by_cases hd : 0 ≤ d
  · rw [Int.tdiv_eq_ediv_of_nonneg hd]
    omega
  · -- a negative duration has no positive number of milliseconds
    have hneg : 0 ≤ (-d).tdiv 1000000 := Int.tdiv_nonneg (by omega) (by omega)
    rw [Int.neg_tdiv] at hneg
    omega

/-- The first step of a started run has the timeout that the start names. -/
theorem duration_of_planFromRunStart {cfg : Defaults} {env : Readings} {start : Directive}
    {input : Value} {timeoutMS : UInt32} {records : List Record}
    (hmsg : start.msg = .start input timeoutMS)
    (h : planFromRunStart cfg env start = .ok records) (htimer : Record.timer timer ∈ records) :
    timer.duration = (effectiveTimeout timeoutMS cfg.stepTimeoutMS).toNat * 1000000 := by
  obtain ⟨ri, e, inputRecords, stepRecords, -, -, hinput, hstep, rfl⟩ :=
    parts_of_planFromRunStart h
  have hno : Record.timer timer ∉ inputRecords := by
    intro hmem
    obtain ⟨v, hv⟩ := hinput _ hmem
    cases hv
  simp only [List.mem_append, List.mem_cons, reduceCtorEq, List.not_mem_nil, or_false, false_or,
    hno] at htimer
  have hdispatch : { start with runInfo := ri }.msg.dispatchable? = some ("start", timeoutMS) := by
    rw [hmsg]
    rfl
  exact Records.duration_of_stepStart hdispatch hstep htimer

/-- The timeout of a start, for a workflow type that is registered without one. -/
theorem Config.msg_of_startRun {registry : Service.Registry} {dup : Stream → DirectiveID → Bool}
    {faults : Service.Faults} {env : Readings} {l : Stream} {runInfo : RunInfo} {input : Value}
    {start : Directive} (hregistered : registry.getStartStepTimeout runInfo.wfType = .ok 0)
    (h : .publishDirective start ∈
      (c.startRun env runInfo input).trace (Service.answer registry dup faults) l) :
    start.msg = .start input (toUint32 c.defaults.stepTimeout.milliseconds) := by
  obtain ⟨registered, hreg, rfl⟩ := Service.eq_startDirective_of_mem_trace h
  cases hregistered.symm.trans hreg
  rfl

/-- A timer that is set by default runs for the converted duration. -/
theorem SetByDefault.duration_eq (h : SetByDefault c timer d) :
    timer.duration = (toUint32 d.milliseconds).toNat * 1000000 := by
  cases h with
  | step hmsg h htimer =>
    rw [Records.duration_of_stepStart hmsg h htimer, effectiveTimeout_zero, Config.managerDefaults]
  | event hmsg htimeout h htimer =>
    rw [Records.duration_of_eventStart hmsg h htimer, htimeout, effectiveTimeout_zero,
      Config.managerDefaults]
  | wait hmsg h htimer =>
    rw [Records.duration_of_wait hmsg h htimer, effectiveTimeout_zero, Config.managerDefaults]
  | start hregistered hstart h htimer =>
    rw [duration_of_planFromRunStart (Config.msg_of_startRun hregistered hstart) h htimer,
      Config.managerDefaults, effectiveTimeout_self]

end Conversion

/-- **Default timeouts.** In a configuration that validation accepts the timeouts are positive. A
timer that is set for one of them runs for its whole milliseconds, and for some time at all,
exactly when the timeout is at least one millisecond and less than `2 ^ 32` milliseconds. -/
theorem default_timeout_honoured_iff {parseDuration : String → Option Duration} {c : Config}
    (hc : c.validate parseDuration = .ok ()) :
    (0 < c.defaults.stepTimeout ∧ 0 < c.defaults.waitTimeout) ∧
    ∀ (timer : Timer) (d : Duration), SetByDefault c timer d →
      ((timer.duration = d.milliseconds * 1000000 ∧ 0 < timer.duration) ↔
        1000000 ≤ d ∧ d < 4294967296 * 1000000) := by
  refine ⟨Config.pos_of_validate hc, fun timer d h => ?_⟩
  rw [h.duration_eq, ← toUint32_milliseconds_iff d]
  omega

namespace Sample

/-- An embedded server with given timeouts. -/
def server (stepTimeout waitTimeout : Duration) : Config where
  nats :=
    { mode := "embedded"
      port := 4225
      storeDir := "./data"
      syncInterval := "always"
      storage := "file" }
  defaults := { stepTimeout, waitTimeout }

/-- The defaults: a day for waits. -/
def dayServer : Config := server 300000000000 86400000000000

/-- Sixty days for waits. -/
def sixtyDaysServer : Config := server 300000000000 5184000000000000

/-- Half a millisecond for waits. -/
def instantServer : Config := server 300000000000 500000

/-- A wait without a timeout. -/
def openWait : Directive where
  id := "next.done"
  kind := .wait
  runInfo := { id := "r1", wfID := "wf", wfType := "order", status := .running }
  msg := .wait 0 ""

/-- The readings of the call that sets its timer. -/
def waitEnv : Readings where
  now := 0
  newID := ""

/-- The timer of the wait, on a server that has been configured with a timeout. -/
def openWaitTimer (c : Config) : Timer :=
  Records.createWaitTimeoutTimer waitEnv openWait c.managerDefaults.waitTimeoutMS ""

/-- A snapshot of a run that nothing is known about. -/
def emptySnapshot : StateSnapshot where
  runState := .zero
  event := .zero
  lastHistorySeqID := 0

theorem setByDefault_openWaitTimer (c : Config) :
    SetByDefault c (openWaitTimer c) c.defaults.waitTimeout := by
  have hwait : ∃ records, Records.wait waitEnv openWait emptySnapshot
      c.managerDefaults.waitTimeoutMS = .ok records ∧
        Record.timer (openWaitTimer c) ∈ records :=
    ⟨_, rfl, by simp [openWaitTimer]⟩
  obtain ⟨records, h, htimer⟩ := hwait
  exact .wait rfl h htimer

end Sample

/-- A wait for a day, the default, lasts a day. -/
theorem default_timeout_honoured_day :
    Sample.dayServer.validate (fun _ => none) = .ok () ∧
      (Sample.openWaitTimer Sample.dayServer).duration =
        Duration.milliseconds 86400000000000 * 1000000 ∧
      0 < (Sample.openWaitTimer Sample.dayServer).duration := by
  have hc : Sample.dayServer.validate (fun _ => none) = .ok () := by decide
  refine ⟨hc, ((default_timeout_honoured_iff hc).2 _ _
    (Sample.setByDefault_openWaitTimer Sample.dayServer)).2 ?_⟩
  decide

/-- A wait for sixty days is accepted and lasts ten days, and one for half a millisecond is over
when it begins. -/
theorem default_wait_wraps :
    (Sample.sixtyDaysServer.validate (fun _ => none) = .ok () ∧
      SetByDefault Sample.sixtyDaysServer (Sample.openWaitTimer Sample.sixtyDaysServer)
        Sample.sixtyDaysServer.defaults.waitTimeout ∧
      Sample.sixtyDaysServer.defaults.waitTimeout.milliseconds = 5184000000 ∧
      (Sample.openWaitTimer Sample.sixtyDaysServer).duration = 889032704 * 1000000) ∧
    Sample.instantServer.validate (fun _ => none) = .ok () ∧
      SetByDefault Sample.instantServer (Sample.openWaitTimer Sample.instantServer)
        Sample.instantServer.defaults.waitTimeout ∧
      (Sample.openWaitTimer Sample.instantServer).duration = 0 := by
  refine ⟨⟨by decide, Sample.setByDefault_openWaitTimer _, by decide, by decide⟩, by decide,
    Sample.setByDefault_openWaitTimer _, by decide⟩

end Grctl
