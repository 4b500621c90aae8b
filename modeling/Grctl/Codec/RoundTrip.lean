import Grctl.Codec.History
import Grctl.Codec.Stored

/-!
# Round trips and unknown kinds

The wire formats put together: what the server encodes is decoded to the same value, and a wire
value whose kind has no factory is refused, however deep inside another value it is. The one
exception are directives and commands without an identifier: these are read as unset before the
decoder looks at their kind.

## Main definitions

* `UnknownInMessage`, `UnknownInDirective`, `UnknownInCommand`, `UnknownInTimer`,
  `UnknownInRunState`, `UnknownInHistory`.

## Main results

* `wire_formats_round_trip`.
* `RunState.eq_of_decode`: the same for run states with a known kind.
-/

namespace Grctl

open Wire

/-! ### Documents with an unknown kind -/

/-- A message of a known kind in which a step result, at some depth, names an unknown kind. -/
inductive UnknownInMessage : DirectiveKind → Document → Prop
  | processedKind {doc : Document} {wire : StepResultWire}
      (hdoc : stepResultWire.decode doc = some wire)
      (hkind : directiveFactory? wire.processedMsgKind = none) : UnknownInMessage .stepResult doc
  | nextKind {doc : Document} {wire : StepResultWire}
      (hdoc : stepResultWire.decode doc = some wire)
      (hkind : directiveFactory? wire.nextMsgKind = none) : UnknownInMessage .stepResult doc
  | processed {doc sub : Document} {wire : StepResultWire} {kind : DirectiveKind}
      (hdoc : stepResultWire.decode doc = some wire)
      (hkind : directiveFactory? wire.processedMsgKind = some kind)
      (hsub : wire.processedMsg = some sub) (h : UnknownInMessage kind sub) :
      UnknownInMessage .stepResult doc
  | next {doc sub : Document} {wire : StepResultWire} {kind : DirectiveKind}
      (hdoc : stepResultWire.decode doc = some wire)
      (hkind : directiveFactory? wire.nextMsgKind = some kind)
      (hsub : wire.nextMsg = some sub) (h : UnknownInMessage kind sub) :
      UnknownInMessage .stepResult doc

/-- A directive with an identifier and an unknown kind, or with a message in which there is one. -/
inductive UnknownInDirective (doc : Document) : Prop
  | kind {wire : DirectiveWire} (hdoc : directiveWire.decode doc = some wire) (hid : wire.id ≠ "")
      (hkind : directiveFactory? wire.kind = none)
  | msg {wire : DirectiveWire} {kind : DirectiveKind} {sub : Document}
      (hdoc : directiveWire.decode doc = some wire) (hid : wire.id ≠ "")
      (hkind : directiveFactory? wire.kind = some kind) (hsub : wire.msg = some sub)
      (h : UnknownInMessage kind sub)

/-- A command with an identifier and an unknown kind. -/
def UnknownInCommand (doc : Document) : Prop :=
  ∃ wire, commandWire.decode doc = some wire ∧ wire.id ≠ "" ∧
    commandMessageFactory? wire.kind = none

/-- A timer with such a directive or command. -/
inductive UnknownInTimer (doc : Document) : Prop
  | directive {wire : TimerWire} {sub : Document} (hdoc : timerWire.decode doc = some wire)
      (hsub : wire.directive = some sub) (h : UnknownInDirective sub)
  | command {wire : TimerWire} {sub : Document} (hdoc : timerWire.decode doc = some wire)
      (hsub : wire.command = some sub) (h : UnknownInCommand sub)

/-- A run state with such a directive for its pending cancel. -/
def UnknownInRunState (doc : Document) : Prop :=
  ∃ wire sub, runStateWire.decode doc = some wire ∧ wire.pendingCancel = some sub ∧
    UnknownInDirective sub

/-- A history event of an unknown kind. -/
def UnknownInHistory (doc : Document) : Prop :=
  ∃ wire, historyWire.decode doc = some wire ∧ historyMessageFactories.lookup wire.kind = none

theorem UnknownInMessage.decodeMessage_ne_ok {kind : DirectiveKind} {doc : Document}
    (h : UnknownInMessage kind doc) (msg : DirectiveMessage) :
    decodeMessage kind doc ≠ .ok msg := by
  -- along the step results that lead to the unknown kind
  induction h generalizing msg with
  | processedKind hdoc hkind =>
    intro hok
    obtain ⟨p, -⟩ := decodeMessage_stepResult_iff.1 hok
    obtain rfl := Option.some_inj.1 (hdoc.symm.trans p.decode_doc)
    cases hkind.symm.trans p.factory_processed
  | nextKind hdoc hkind =>
    intro hok
    obtain ⟨p, -⟩ := decodeMessage_stepResult_iff.1 hok
    obtain rfl := Option.some_inj.1 (hdoc.symm.trans p.decode_doc)
    cases hkind.symm.trans p.factory_next
  | processed hdoc hkind hsub _ ih =>
    intro hok
    obtain ⟨p, -⟩ := decodeMessage_stepResult_iff.1 hok
    obtain rfl := Option.some_inj.1 (hdoc.symm.trans p.decode_doc)
    obtain rfl := Option.some_inj.1 (hkind.symm.trans p.factory_processed)
    obtain rfl := Option.some_inj.1 (hsub.symm.trans p.processed_eq)
    exact ih _ p.decode_processed
  | next hdoc hkind hsub _ ih =>
    intro hok
    obtain ⟨p, -⟩ := decodeMessage_stepResult_iff.1 hok
    obtain rfl := Option.some_inj.1 (hdoc.symm.trans p.decode_doc)
    obtain rfl := Option.some_inj.1 (hkind.symm.trans p.factory_next)
    obtain rfl := Option.some_inj.1 (hsub.symm.trans p.next_eq)
    exact ih _ p.decode_next

theorem UnknownInDirective.decodeDirective_ne_ok {doc : Document} (h : UnknownInDirective doc)
    (d : Directive) : decodeDirective doc ≠ .ok d := by
  intro hok
  rcases decodeDirective_eq_ok_iff.1 hok with ⟨wire, hwire, hid, -⟩ | ⟨p, -⟩
  · cases h with
    | kind hdoc hne _ | msg hdoc hne _ _ _ =>
      obtain rfl := Option.some_inj.1 (hdoc.symm.trans hwire)
      exact hne hid
  · cases h with
    | kind hdoc _ hkind =>
      obtain rfl := Option.some_inj.1 (hdoc.symm.trans p.decode_doc)
      cases hkind.symm.trans p.factory
    | msg hdoc _ hkind hsub h =>
      obtain rfl := Option.some_inj.1 (hdoc.symm.trans p.decode_doc)
      obtain rfl := Option.some_inj.1 (hkind.symm.trans p.factory)
      obtain rfl := Option.some_inj.1 (hsub.symm.trans p.msg_eq)
      exact h.decodeMessage_ne_ok _ p.decode_msg

theorem UnknownInCommand.decodeCommand_ne_ok {doc : Document} (h : UnknownInCommand doc)
    (c : Command) : decodeCommand doc ≠ .ok c := by
  obtain ⟨wire, hdoc, hid, hkind⟩ := h
  intro hok
  simp only [decodeCommand, hdoc, if_neg hid] at hok
  obtain ⟨⟨kind, msg⟩, hcmd, -⟩ := bind_eq_ok.1 hok
  cases hkind.symm.trans (decodeCmd_eq_ok_iff.1 (wrap_eq_ok.1 hcmd)).1

theorem UnknownInTimer.decodeTimer_ne_ok {doc : Document} (h : UnknownInTimer doc) (t : Timer) :
    decodeTimer doc ≠ .ok t := by
  intro hok
  obtain ⟨wire, hwire, hok⟩ := bind_eq_ok.1 hok
  obtain ⟨d, hd, hok⟩ := bind_eq_ok.1 hok
  obtain ⟨c, hc, -⟩ := bind_eq_ok.1 hok
  rw [unmarshal_eq_ok] at hwire
  cases h with
  | directive hdoc hsub h =>
    obtain rfl := Option.some_inj.1 (hdoc.symm.trans hwire)
    rw [hsub] at hd
    exact h.decodeDirective_ne_ok d hd
  | command hdoc hsub h =>
    obtain rfl := Option.some_inj.1 (hdoc.symm.trans hwire)
    rw [hsub] at hc
    exact h.decodeCommand_ne_ok c hc

/-- `nil` has no identifier. -/
theorem not_unknownInDirective_nil : ¬ UnknownInDirective .nil := by
  have hnil : directiveWire.decode .nil = some {} := rfl
  rintro (⟨hdoc, hid, _⟩ | ⟨hdoc, hid, _, _, _⟩)
  all_goals
    obtain rfl := Option.some_inj.1 (hnil.symm.trans hdoc)
    exact hid rfl

theorem UnknownInRunState.decodeRunState_ne_ok {doc : Document} (h : UnknownInRunState doc)
    (s : RunStateFields Directive) : decodeRunState doc ≠ .ok s := by
  obtain ⟨wire, sub, hdoc, hsub, h⟩ := h
  intro hok
  obtain ⟨wire', hwire, hok⟩ := bind_eq_ok.1 hok
  obtain rfl := Option.some_inj.1 (hdoc.symm.trans (unmarshal_eq_ok.1 hwire))
  rw [hsub] at hok
  cases sub with
  | nil => exact not_unknownInDirective_nil h
  | _ =>
    obtain ⟨d, hd, -⟩ := bind_eq_ok.1 hok
    exact h.decodeDirective_ne_ok d hd

theorem UnknownInHistory.decodeHistory_ne_ok {doc : Document} (h : UnknownInHistory doc)
    (e : HistoryEvent) : decodeHistory doc ≠ .ok e := by
  obtain ⟨wire, hdoc, hkind⟩ := h
  simp [decodeHistory, hdoc, hkind]

/-! ### The wire formats -/

/-- What a run state is decoded to is the run state itself, its sequence aside. -/
theorem RunState.eq_of_decode {s s' : RunState} (h : ∀ d ∈ s.pendingCancel, d.Carried)
    (hs' : (encodeRunState s.fields >>= decodeRunState) = .ok s'.fields) :
    { s with seqID := s'.seqID } = s' := by
  have hs : (encodeRunState s.fields >>= decodeRunState) = .ok s.fields :=
    decodeRunState_encodeRunState h
  exact RunState.fields_inj (Except.ok.inj (hs.symm.trans hs'))

/-- Directives, timers, run states, commands and the events of package `history` are decoded to what
was encoded, and documents with an unknown kind at any level are refused. -/
theorem wire_formats_round_trip :
    ((∀ d : Directive, d.Sendable → (encodeDirective d >>= decodeDirective) = .ok d) ∧
      (∀ t : Timer, t.Sendable → (encodeTimer t >>= decodeTimer) = .ok t) ∧
      (∀ s : RunStateFields Directive, (∀ d ∈ s.pendingCancel, d.Carried) →
        (encodeRunState s >>= decodeRunState) = .ok s) ∧
      (∀ c : Command, c.Sendable → (encodeCommand c >>= decodeCommand) = .ok c) ∧
      ∀ (worker : String) (e : HistoryEvent), History.Built e →
        decodeHistory (encodeHistory worker e) = .ok e) ∧
    (∀ doc, UnknownInDirective doc → ∀ d, decodeDirective doc ≠ .ok d) ∧
    (∀ doc, UnknownInTimer doc → ∀ t, decodeTimer doc ≠ .ok t) ∧
    (∀ doc, UnknownInRunState doc → ∀ s, decodeRunState doc ≠ .ok s) ∧
    (∀ doc, UnknownInCommand doc → ∀ c, decodeCommand doc ≠ .ok c) ∧
    ∀ doc, UnknownInHistory doc → ∀ e, decodeHistory doc ≠ .ok e := by
  refine ⟨⟨fun d h => decodeDirective_encodeDirective h, fun t h => decodeTimer_encodeTimer h,
    fun s h => decodeRunState_encodeRunState h, fun c h => decodeCommand_encodeCommand h,
    fun worker e h => ?_⟩, fun doc h => h.decodeDirective_ne_ok, fun doc h => h.decodeTimer_ne_ok,
    fun doc h => h.decodeRunState_ne_ok, fun doc h => h.decodeCommand_ne_ok,
    fun doc h => h.decodeHistory_ne_ok⟩
  obtain ⟨hagrees, hkind⟩ := h.agrees
  exact decodeHistory_encodeHistory hagrees fun hrec => absurd hrec hkind

/-- A directive with a step result inside a step result. -/
def nestedDirective : Directive where
  id := "d1"
  timestamp := 5
  kind := .stepResult
  runInfo := { RunInfo.zero with id := "r1", wfID := "wf", status := .running, startedAt := some 1 }
  attempt := 2
  msg := .stepResult .start (.start .nil 30) (some "w1") 12 (some [("total", .nil)]) .stepResult
    (.stepResult .step (.step "pay" 10) none 3 none .wait (.wait 60 "late"))

/-- The wire value of a directive whose message goes on to a kind that does not exist. -/
def jumpWire : DirectiveWire where
  id := "d1"
  kind := "step_result"
  msg := some (stepResultWire.encode
    { processedMsgKind := "start"
      processedMsg := some (Codec.start.encode (.nil, 0))
      workerID := none
      durationMS := 0
      kvUpdates := none
      nextMsgKind := "jump"
      nextMsg := some (Codec.noFields.encode ()) })

theorem wire_formats_round_trip_nested :
    (encodeDirective nestedDirective >>= decodeDirective) = .ok nestedDirective ∧
      decodeDirective (directiveWire.encode jumpWire) ≠ .ok nestedDirective := by
  have hvalid : directiveWire.Valid jumpWire := valid_directiveWire (by decide)
  have hunknown : UnknownInDirective (directiveWire.encode jumpWire) :=
    .msg (directiveWire.decode_encode jumpWire hvalid) (by decide)
      (show directiveFactory? "step_result" = some .stepResult by decide) rfl
      (.nextKind (stepResultWire.decode_encode _ (valid_stepResultWire _)) (by decide))
  exact ⟨wire_formats_round_trip.1.1 nestedDirective ⟨by decide, by decide⟩,
    wire_formats_round_trip.2.1 _ hunknown nestedDirective⟩

/-- Without an identifier an unknown kind is not noticed, and the document is read as the zero
directive; any text is accepted for the kind of a run state; and a run state is not encoded with a
pending cancel that has no message. -/
theorem unknown_kind_without_id :
    (∃ wire : DirectiveWire, wire.kind = "jump" ∧ directiveFactory? wire.kind = none ∧
      directiveWire.decode (directiveWire.encode wire) = some wire ∧
      decodeDirective (directiveWire.encode wire) = .ok .zero) ∧
    (∃ s : RunStateFields Directive, s.kind = "paused" ∧ RunStateKind.ofText? s.kind = none ∧
      (encodeRunState s >>= decodeRunState) = .ok s) ∧
    ∃ s : RunState, s.pendingCancel = some { Directive.zero with id := "d1", kind := .cancel } ∧
      encodeRunState s.fields = fail "directive message cannot be nil" := by
  refine ⟨?_, ⟨{ RunState.zero.fields with kind := "paused" }, rfl, by decide, ?_⟩,
    { RunState.zero with pendingCancel := some _ }, rfl, rfl⟩
  · have hvalid : directiveWire.Valid { kind := "jump" } := valid_directiveWire (by decide)
    have hdecode := directiveWire.decode_encode { kind := "jump" } hvalid
    exact ⟨{ kind := "jump" }, rfl, by decide, hdecode,
      decodeDirective_eq_ok_iff.2 (.inl ⟨_, hdecode, rfl, rfl⟩)⟩
  · exact decodeRunState_encodeRunState fun d hd => by cases hd

end Grctl
