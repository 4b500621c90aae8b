import Grctl.Run.Turn

/-!
# How a plan depends on its snapshot

The three reads behind a snapshot are not one operation, so that a snapshot may be out of date in
two ways when its batch is committed: history was written meanwhile, or an event came into an inbox
that had nothing to read. `Precedes` says so of two snapshots of one run. A plan shows the
difference in two places only. A step result stamps the history bound on the directive it derives,
and a wait wakes itself when it sees an event.

## Main definitions

* `StateSnapshot.Precedes`: a snapshot and a later one, with nothing of the run state missed.
* `Record.unbound`: a record less its history bound.
* `Agree`: two planned batches that differ in history bounds and in a wake-up at their end.

## Main results

* `agree_of_precedes`: a later snapshot leads to the same batch, up to the bound and the wake-up.
-/

namespace Grctl

/-- The directive with another history bound. -/
def Directive.bounded (n : ℕ) (d : Directive) : Directive :=
  { d with runInfo := { d.runInfo with historySeqID := n } }

@[simp] theorem Directive.bounded_msg (n : ℕ) (d : Directive) : (d.bounded n).msg = d.msg := rfl

/-- A record less the history bound of the run description it carries. -/
def Record.unbound : Record → Record
  | .runInfo info n => .runInfo { info with historySeqID := 0 } n
  | .timer t => .timer { t with directive := t.directive.bounded 0 }
  | .workerTask d => .workerTask (d.bounded 0)
  | .directive d => .directive (d.bounded 0)
  | r => r

/-- Two snapshots of one run, the second of which may have seen more of the history, and an event
where the first saw none. -/
structure StateSnapshot.Precedes (sn sn' : StateSnapshot) : Prop where
  runState : sn'.runState = sn.runState
  history : sn.lastHistorySeqID ≤ sn'.lastHistorySeqID
  event : sn.event = .zero ∨ sn'.event = sn.event

/-- Two planned batches that agree up to history bounds, the second of which has `extra` at its
end; or the same fault twice. -/
inductive Agree (extra : List Record) : Outcome (List Record) → Outcome (List Record) → Prop
  | ok {records records' : List Record}
      (h : records'.map Record.unbound = (records ++ extra).map Record.unbound) :
      Agree extra (.ok records) (.ok records')
  | error (fault : Fault) : Agree extra (.error fault) (.error fault)

namespace Agree

variable {extra : List Record} {x x' : Outcome (List Record)}

theorem refl (x : Outcome (List Record)) : Agree [] x x := by
  cases x with
  | error fault => exact .error fault
  | ok records => exact .ok (by rw [List.append_nil])

theorem of_map_eq (h : x'.map (List.map Record.unbound) = x.map (List.map Record.unbound)) :
    Agree [] x x' := by
  cases x <;> cases x' <;> simp only [Except.map, reduceCtorEq, Except.ok.injEq,
    Except.error.injEq] at h
  · exact h ▸ .error _
  · exact .ok (by rw [h, List.append_nil])

theorem trans {extra' : List Record} {x'' : Outcome (List Record)} (h : Agree extra x x')
    (h' : Agree extra' x' x'') : Agree (extra ++ extra') x x'' := by
  cases h with
  | error fault =>
    cases h'
    exact .error fault
  | ok h =>
    cases h' with
    | ok h' =>
      refine .ok ?_
      rw [h', List.map_append, h, ← List.map_append, List.append_assoc]

theorem wrap (h : Agree extra x x') (context : String) :
    Agree extra (wrap context x) (wrap context x') := by
  cases h with
  | ok h => exact .ok h
  | error fault => cases fault <;> exact .error _

/-- What stands before the records of both batches does not matter. -/
theorem prepend (h : Agree extra x x') (front : List Record) :
    Agree extra (x >>= fun records => pure (front ++ records))
      (x' >>= fun records => pure (front ++ records)) := by
  cases h with
  | ok h => exact .ok (by rw [List.append_assoc, List.map_append, List.map_append, h])
  | error fault => exact .error _

/-- Records that both outcomes start with, when there are any. -/
theorem bind_front (front : Outcome (List Record)) (h : Agree extra x x') :
    Agree extra (front >>= fun f => x >>= fun records => pure (f ++ records))
      (front >>= fun f => x' >>= fun records => pure (f ++ records)) := by
  cases front with
  | error fault => exact .error fault
  | ok f => exact h.prepend f

/-- A history event that both outcomes start with, when there is one. -/
theorem cons_history (event : Outcome HistoryEvent) (h : Agree extra x x') :
    Agree extra (event >>= fun e => x >>= fun records => pure (.history e :: records))
      (event >>= fun e => x' >>= fun records => pure (.history e :: records)) := by
  cases event with
  | error fault => exact .error fault
  | ok e => exact h.prepend [.history e]

end Agree

/-! ### The history bound -/

section Bound

variable {env : Readings} {d : Directive} {cur : RunState} {sn : StateSnapshot} {m n : ℕ}
  {timeoutMS : UInt32}

theorem agree_dispatch_bounded {name : String} {cursor : ℕ} :
    Agree [] (Records.dispatch env (d.bounded n) name cur cursor timeoutMS)
      (Records.dispatch env (d.bounded m) name cur cursor timeoutMS) := by
  apply Agree.of_map_eq
  rw [Records.dispatch, Records.dispatch, Records.stepTimeoutTimer, Records.stepTimeoutTimer]
  simp only [Directive.bounded]
  cases d.msg.dispatchable? with
  | none => rfl
  | some p =>
    simp only [RunInfo.startStep, RunInfo.withCreatedAt]
    split_ifs <;> rfl

/-- A bound that is set survives the repairs of a dispatched directive. -/
theorem exists_repairRunInfo_bounded (d : Directive) (cur : RunState) :
    ∃ d' : Directive, ∀ n, Records.repairRunInfo (d.bounded (n + 1)) cur = d'.bounded (n + 1) :=
  ⟨{ d with runInfo := { d.runInfo with startedAt := d.runInfo.startedAt <|> cur.startedAt } },
    fun _ => rfl⟩

theorem cursorAfter_bounded (d : Directive) (cur : RunState) (n : ℕ) :
    Records.cursorAfter (d.bounded n) cur = Records.cursorAfter d cur := rfl

theorem agree_stepStart_bounded :
    Agree [] (Records.stepStart env (d.bounded (n + 1)) cur timeoutMS)
      (Records.stepStart env (d.bounded (m + 1)) cur timeoutMS) := by
  obtain ⟨d', hd'⟩ := exists_repairRunInfo_bounded d cur
  simp only [Records.stepStart, hd', Directive.bounded_msg, cursorAfter_bounded]
  cases d'.msg.dispatchable? with
  | none => exact .refl _
  | some p => exact agree_dispatch_bounded

theorem agree_eventStart_bounded :
    Agree [] (Records.eventStart env (d.bounded (n + 1)) cur timeoutMS)
      (Records.eventStart env (d.bounded (m + 1)) cur timeoutMS) := by
  obtain ⟨d', hd'⟩ := exists_repairRunInfo_bounded d cur
  simp only [Records.eventStart, hd', Directive.bounded_msg]
  cases d'.msg with
  | event e => exact agree_dispatch_bounded
  | _ => exact .refl _

theorem agree_completeRun_bounded :
    Agree [] (Records.completeRun env (d.bounded n) cur)
      (Records.completeRun env (d.bounded m) cur) := by
  apply Agree.of_map_eq
  simp only [Records.completeRun, RunInfo.complete, RunInfo.finishStarted, History.runCompleted,
    History.durationMS, Directive.bounded]
  cases d.msg <;> cases d.runInfo.startedAt <;> rfl

theorem agree_failRun_bounded :
    Agree [] (Records.failRun env (d.bounded n) cur) (Records.failRun env (d.bounded m) cur) := by
  apply Agree.of_map_eq
  simp only [Records.failRun, RunInfo.fail, RunInfo.finishStarted, History.runFailed,
    History.durationMS, Directive.bounded]
  cases d.msg <;> cases d.runInfo.startedAt <;> rfl

theorem agree_terminateRun_bounded :
    Agree [] (Records.terminateRun env (d.bounded n) cur)
      (Records.terminateRun env (d.bounded m) cur) := by
  apply Agree.of_map_eq
  simp only [Records.terminateRun, RunInfo.terminate, History.runTerminated, Directive.bounded]
  cases d.msg <;> rfl

theorem agree_stepTimeout_bounded :
    Agree [] (Records.stepTimeout env (d.bounded n) cur)
      (Records.stepTimeout env (d.bounded m) cur) := by
  have hevent (k : ℕ) : History.stepTimedout env.now (d.bounded k) cur =
      History.stepTimedout env.now d cur := rfl
  simp only [Records.stepTimeout, Directive.bounded_msg, hevent]
  cases d.msg with
  | stepTimeout name id =>
    dsimp only
    split_ifs with hstale
    · exact .refl _
    · exact .cons_history _ (.wrap (agree_failRun_bounded (d := Records.failDirective env d _)) _)
  | _ => exact .refl _

theorem agree_waitTimeout_bounded :
    Agree [] (Records.waitTimeout env (d.bounded (n + 1)) cur timeoutMS)
      (Records.waitTimeout env (d.bounded (m + 1)) cur timeoutMS) := by
  have hevent (k : ℕ) : History.waitTimedOut env.now (d.bounded k) =
      History.waitTimedOut env.now d := rfl
  simp only [Records.waitTimeout, Directive.bounded_msg, hevent]
  cases d.msg with
  | waitTimeout name id =>
    dsimp only
    split_ifs with hstale hname
    · exact .refl _
    · exact .cons_history _
        (.wrap (agree_stepStart_bounded (d := Records.timeoutStepDirective env d name)) _)
    · exact .cons_history _ (.wrap (agree_failRun_bounded (d := Records.failDirective env d _)) _)
  | _ => exact .refl _

theorem agree_wait_bounded :
    Agree [] (Records.wait env (d.bounded n) sn timeoutMS)
      (Records.wait env (d.bounded m) sn timeoutMS) := by
  apply Agree.of_map_eq
  simp only [Records.wait, RunInfo.wait, History.waitStarted, Directive.bounded_msg]
  cases d.msg with
  | wait t name =>
    dsimp only
    split_ifs <;> rfl
  | _ => rfl

/-- The bound of a derived directive reaches the run descriptions of its batch and nothing else. -/
theorem agree_planTransition_bounded (cfg : Defaults) (env : Readings) (d : Directive)
    (sn : StateSnapshot) (n m : ℕ) :
    Agree [] (planTransition cfg env (d.bounded (n + 1)) sn)
      (planTransition cfg env (d.bounded (m + 1)) sn) := by
  have hkind (k : ℕ) : (d.bounded k).kind = d.kind := rfl
  simp only [planTransition, hkind]
  cases d.kind with
  | step => exact agree_stepStart_bounded
  | stepPickedUp => exact .refl _
  | event => exact agree_eventStart_bounded
  | stepTimeout => exact agree_stepTimeout_bounded
  | complete => exact agree_completeRun_bounded
  | fail => exact agree_failRun_bounded
  | terminate => exact agree_terminateRun_bounded
  | wait => exact agree_wait_bounded
  | waitTimeout => exact agree_waitTimeout_bounded
  | _ => exact .refl _

end Bound

/-! ### A later snapshot -/

section Later

variable {cfg : Defaults} {env : Readings} {d : Directive} {sn sn' : StateSnapshot}

/-- The wake-up of a wait that an out-of-date snapshot leaves out. -/
def missedWake (env : Readings) (d : Directive) (sn sn' : StateSnapshot) : List Record :=
  if d.kind = .wait ∧ sn.event.id = "" ∧ sn'.event.id ≠ "" then
    [.directive (Records.wakeDirective env d)] else []

theorem missedWake_of_ne (h : d.kind ≠ .wait) : missedWake env d sn sn' = [] :=
  if_neg fun hwait => h hwait.1

theorem agree_wait (h : sn.Precedes sn') (hd : d.kind = .wait) (timeoutMS : UInt32) :
    Agree (missedWake env d sn sn') (Records.wait env d sn timeoutMS)
      (Records.wait env d sn' timeoutMS) := by
  have hlater : sn.event.id ≠ "" → sn'.event.id ≠ "" := fun hid => by
    rcases h.event with hzero | hsame
    · exact absurd (congrArg Directive.id hzero) hid
    · rwa [hsame]
  simp only [Records.wait, History.waitStarted, h.runState, missedWake, hd, true_and]
  cases d.msg with
  | wait t name =>
    by_cases hid : sn.event.id = ""
    · exact .ok (by by_cases hid' : sn'.event.id = "" <;> simp [hid, hid'])
    · exact .ok (by simp [hid, hlater hid])
  | _ => exact .error _

/-- Apart from a wait, a transition looks at the run state alone. -/
theorem planTransition_congr (hstate : sn'.runState = sn.runState)
    (hwait : d.kind = .wait → sn'.event = sn.event) :
    planTransition cfg env d sn' = planTransition cfg env d sn := by
  simp only [planTransition, hstate]
  split
  case h_8 hd => simp only [Records.wait, hstate, hwait hd]
  all_goals rfl

theorem agree_planTransition (h : sn.Precedes sn') (d : Directive) :
    Agree (missedWake env d sn sn') (planTransition cfg env d sn)
      (planTransition cfg env d sn') := by
  by_cases hd : d.kind = .wait
  · simp only [planTransition, hd]
    exact agree_wait h hd _
  · rw [missedWake_of_ne hd, planTransition_congr h.runState fun hwait => absurd hwait hd]
    exact .refl _

/-- What a batch lacks that was planned from an out-of-date snapshot: nothing, or the wake-up of a
wait for an event that the snapshot does not show. -/
def Lacks (d : Directive) (sn : StateSnapshot) (extra : List Record) : Prop :=
  extra = [] ∨ d.AsksFor .wait ∧ sn.event.id = "" ∧
    ∃ src wake : Directive, extra = [.directive wake] ∧ wake.IsWakeFor src ∧
      src.runInfo.SameRun d.runInfo

theorem lacks_missedWake {src : Directive} (hsrc : src.runInfo.SameRun d.runInfo)
    (hd : src.kind = .wait → d.AsksFor .wait) : Lacks d sn (missedWake env src sn sn') := by
  rw [missedWake]
  split_ifs with h
  · exact .inr ⟨hd h.1, h.2.1, src, _, rfl, ⟨rfl, rfl, rfl, rfl⟩, hsrc⟩
  · exact .inl rfl

theorem agree_planFromStepResult (h : sn.Precedes sn') (hd : d.kind = .stepResult) :
    ∃ extra, Lacks d sn extra ∧
      Agree extra (planFromStepResult cfg env d sn) (planFromStepResult cfg env d sn') := by
  simp only [planFromStepResult, h.runState]
  cases hmsg : d.msg with
  | stepResult pk p worker ms kv nk nm =>
    dsimp only
    by_cases hfail : nk = .failStep
    · simp only [hfail, if_true]
      refine ⟨[], .inl rfl, ?_⟩
      cases nm with
      | failStep name error =>
        exact .bind_front _ (.wrap (agree_failRun_bounded (n := sn.lastHistorySeqID + 1)
          (m := sn'.lastHistorySeqID + 1)
          (d := { deriveNextDirective env d .fail (.fail error) sn with msg := .fail error })) _)
      | _ => exact .refl _
    · simp only [hfail, if_false]
      cases sn.runState.pendingCancel with
      | some cancel => exact ⟨[], .inl rfl, .refl _⟩
      | none =>
        have hwait : nk = .wait → d.AsksFor .wait := fun hk =>
          .inr ⟨hd, by rw [Directive.nextKind?_of_msg hmsg, hk]⟩
        refine ⟨missedWake env (deriveNextDirective env d nk nm sn) sn sn',
          lacks_missedWake ⟨rfl, rfl, rfl⟩ hwait, .bind_front _ (.wrap ?_ _)⟩
        -- first the snapshot is replaced, then the bound that the next directive takes from it
        have hbound := agree_planTransition_bounded cfg env (deriveNextDirective env d nk nm sn) sn'
          sn.lastHistorySeqID sn'.lastHistorySeqID
        have hlater := (agree_planTransition h (deriveNextDirective env d nk nm sn)).trans hbound
        rwa [List.append_nil] at hlater
  | _ => exact ⟨[], .inl rfl, .refl _⟩

/-- A later snapshot leads to the same batch, up to the bound and the wake-up. An event is not
covered, because its wake-up goes the other way, nor is a wake-up that has nothing to dispatch. -/
theorem agree_of_precedes (cfg : Defaults) (env failEnv : Readings) (h : sn.Precedes sn')
    (hevent : d.kind ≠ .event)
    (hwake : d.kind = .wakeFromInbox → sn.event.id ≠ "") :
    ∃ extra, Lacks d sn extra ∧
      Agree extra (handleRecords cfg env failEnv d sn) (handleRecords cfg env failEnv d sn') := by
  have hplan : ∃ extra,
      Lacks d sn extra ∧ Agree extra (plan cfg env d sn) (plan cfg env d sn') := by
    simp only [plan, h.runState]
    split_ifs with hend
    · exact ⟨[], .inl rfl, .refl _⟩
    · split
      · exact ⟨[], .inl rfl, .refl _⟩
      · rename_i hd
        exact agree_planFromStepResult h hd
      · exact ⟨[], .inl rfl, by simp only [planCancel, h.runState]; exact .refl _⟩
      · contradiction
      · rename_i hd
        have hsame : sn'.event = sn.event := h.event.resolve_left fun hzero =>
          hwake hd (congrArg Directive.id hzero)
        simp only [planWakeFromInbox, h.runState, hsame]
        split_ifs with hidle
        · exact ⟨[], .inl rfl, .refl _⟩
        · have hnone : missedWake env sn.event sn sn' = [] := if_neg fun hm => hwake hd hm.2.1
          exact ⟨[], .inl rfl, hnone ▸ agree_planTransition h sn.event⟩
      · exact ⟨missedWake env d sn sn', lacks_missedWake (.refl _) .inl, agree_planTransition h d⟩
  obtain ⟨extra, hextra, hplan⟩ := hplan
  simp only [handleRecords, h.runState]
  revert hplan
  generalize plan cfg env d sn = x, plan cfg env d sn' = x'
  intro hplan
  cases hplan with
  | ok hrecords => exact ⟨extra, hextra, .ok hrecords⟩
  -- the failure of a run is built from its state alone
  | error fault => cases fault <;> exact ⟨[], .inl rfl, .refl _⟩

/-- Where neither the history bound nor a wait comes in, a later snapshot leads to the same
batch. -/
theorem handleRecords_of_precedes (cfg : Defaults) (env failEnv : Readings)
    (h : sn.Precedes sn')
    (hkind : d.kind ∉ [DirectiveKind.event, .stepResult, .wait])
    (hwake : d.kind = .wakeFromInbox → sn.event.id ≠ "") :
    handleRecords cfg env failEnv d sn' = handleRecords cfg env failEnv d sn := by
  simp only [List.mem_cons, List.not_mem_nil, or_false, not_or] at hkind
  have hplan : plan cfg env d sn' = plan cfg env d sn := by
    simp only [plan, h.runState]
    split_ifs with hend
    · rfl
    · split
      · rfl
      · simp_all
      · simp only [planCancel, h.runState]
      · simp_all
      · rename_i hd
        have hsame : sn'.event = sn.event := h.event.resolve_left fun hzero =>
          hwake hd (congrArg Directive.id hzero)
        simp only [planWakeFromInbox, h.runState, hsame,
          planTransition_congr h.runState fun _ => hsame]
      · exact planTransition_congr h.runState fun hd => absurd hd hkind.2.2
  simp only [handleRecords, hplan, h.runState]

end Later

end Grctl
