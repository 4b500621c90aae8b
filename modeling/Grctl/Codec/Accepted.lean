import Grctl.Codec.History
import Grctl.Codec.Stored

/-!
# What is read back unchanged

The converse of the round trips. The encoders accept more than what is decoded to the same value:
the type of a message alone decides how it is written, while the kind next to it decides how it is
read, and a directive or a command without an identifier is written as an empty one. Here it is
shown that the values for which there are round trips are the only ones.

A status is written as its text. The decoder reads a text that is one of the constants as that
constant, so that after encoding a description of a run is read back in its canonical form.

## Main definitions

* `RunInfo.canonical`.

## Main results

* `decode_encode_runInfo`, `decode_encode_directiveWire`, `decode_encode_timerWire`.
* `agrees_of_decodeMessage`, `agrees_of_unmarshalCmd`, `agrees_of_decodeHistoryMessage`.
* `decodeDirective_eq_iff`, `decodeCommand_eq_iff`, `decodeTimer_eq_iff`, `decodeRunState_eq_iff`,
  `decodeHistory_eq_iff`.
-/

namespace Grctl

open Wire

/-! ### Canonical forms -/

theorem RunStatus.text_ofText (text : String) : (RunStatus.ofText text).text = text := by
  unfold ofText
  cases hfind : List.find? _ _ with
  | none => rfl
  | some s => simpa using List.find?_some hfind

theorem RunStatus.canonical_ofText (text : String) : (RunStatus.ofText text).Canonical := by
  rw [Canonical, text_ofText]

theorem TimerKind.text_ofText (text : String) : (TimerKind.ofText text).text = text := by
  unfold ofText
  cases hfind : List.find? _ _ with
  | none => rfl
  | some kind => simpa using List.find?_some hfind

theorem TimerKind.canonical_ofText (text : String) : (TimerKind.ofText text).Canonical := by
  rw [Canonical, text_ofText]

/-- The description with the status that has the same text. -/
def RunInfo.canonical (info : RunInfo) : RunInfo :=
  { info with status := RunStatus.ofText info.status.text }

theorem RunInfo.canonical_eq_self {info : RunInfo} :
    info.canonical = info ↔ info.status.Canonical := by
  constructor
  · intro h
    exact congrArg RunInfo.status h
  · intro h
    rw [canonical, h]

theorem RunInfo.canonical_status (info : RunInfo) : info.canonical.status.Canonical :=
  RunStatus.canonical_ofText _

/-- Only the text of a status is written, and it is left out if it is empty. -/
theorem encode_status_canonical (s : RunStatus) :
    (Field.omitEmpty "status" Codec.runStatus (.other "")).encode (RunStatus.ofText s.text) =
      (Field.omitEmpty "status" Codec.runStatus (.other "")).encode s := by
  have hempty : ∀ s' : RunStatus, s'.text = "" ↔ s' = .other "" := by
    intro s'
    cases s' <;> simp [RunStatus.text]
  have htext : (RunStatus.ofText s.text).text = s.text := RunStatus.text_ofText _
  by_cases hs : s = .other ""
  · subst hs
    rfl
  · have hs' : RunStatus.ofText s.text ≠ .other "" := by
      rwa [Ne, ← hempty, htext, hempty]
    simp only [Field.omitEmpty, hs, hs', if_false, Codec.runStatus, Format.named, htext]

theorem encode_canonical (info : RunInfo) :
    Codec.runInfo.encode info.canonical = Codec.runInfo.encode info :=
  Fields.encode_record_congr (by
    simp only [Fields.encode_field, Fields.encode_make, RunInfo.canonical,
      encode_status_canonical])

theorem decode_encode_runInfo (info : RunInfo) :
    Codec.runInfo.decode (Codec.runInfo.encode info) = some info.canonical := by
  rw [← encode_canonical]
  exact Codec.runInfo.decode_encode _ (Codec.valid_runInfo info.canonical_status)

theorem decode_encode_directiveWire (wire : DirectiveWire) :
    directiveWire.decode (directiveWire.encode wire) =
      some { wire with runInfo := wire.runInfo.canonical } := by
  have hencode : directiveWire.encode { wire with runInfo := wire.runInfo.canonical } =
      directiveWire.encode wire :=
    Fields.encode_record_congr (by
      simp only [Fields.encode_field, Fields.encode_make, Field.encode_plain, encode_canonical])
  rw [← hencode]
  exact directiveWire.decode_encode _ (valid_directiveWire wire.runInfo.canonical_status)

theorem decode_encode_startCmd (info : RunInfo) (input : Value) :
    Codec.startCmd.decode (Codec.startCmd.encode (info, input)) = some (info.canonical, input) := by
  have hencode : Codec.startCmd.encode (info.canonical, input) =
      Codec.startCmd.encode (info, input) :=
    Fields.encode_record_congr (by
      simp only [Fields.encode_field, Fields.encode_make, Field.encode_plain, encode_canonical])
  rw [← hencode]
  exact Codec.startCmd.decode_encode _ (Codec.valid_startCmd info.canonical_status)

theorem decode_encode_timerWire (wire : TimerWire) :
    timerWire.decode (timerWire.encode wire) =
      some { wire with kind := TimerKind.ofText wire.kind.text } := by
  have hencode : timerWire.encode { wire with kind := TimerKind.ofText wire.kind.text } =
      timerWire.encode wire :=
    Fields.encode_record_congr (by
      simp only [Fields.encode_field, Fields.encode_make, Field.encode_plain, Format.named,
        TimerKind.text_ofText])
  rw [← hencode]
  exact timerWire.decode_encode _ (valid_timerWire (TimerKind.canonical_ofText _))

/-! ### Messages have the type of their kind -/

/-- The factory of a kind decides the type of the message, to any depth of step results. -/
theorem agrees_of_decodeMessage {kind : DirectiveKind} {doc : Document} {msg : DirectiveMessage}
    (h : decodeMessage kind doc = .ok msg) : msg.agrees kind = true := by
  -- along the size of the document, which the messages of a step result make smaller
  induction hsize : sizeOf doc using Nat.strongRecOn generalizing kind doc msg with
  | ind size ih =>
    cases kind with
    | unset =>
      rw [decodeMessage] at h
      simp at h
    | stepResult =>
      obtain ⟨p, rfl⟩ := decodeMessage_stepResult_iff.1 h
      have hprocessed := ih _
        (hsize ▸ sizeOf_of_stepResultWire p.decode_doc (.inl p.processed_eq))
        p.decode_processed rfl
      have hnext := ih _ (hsize ▸ sizeOf_of_stepResultWire p.decode_doc (.inr p.next_eq))
        p.decode_next rfl
      simp [StepResultParts.message, DirectiveMessage.agrees, hprocessed, hnext]
    | _ =>
      rw [decodeMessage] at h
      obtain ⟨fields, -, h⟩ := bind_eq_ok.1 h
      cases h
      rfl

theorem agrees_of_unmarshalCmd {kind : CmdKind} {doc : Document} {msg : CommandMessage}
    (h : unmarshalCmd kind doc = .ok msg) : msg.agrees kind = true := by
  cases kind with
  | unset => simp [unmarshalCmd] at h
  | _ =>
    obtain ⟨fields, -, h⟩ := bind_eq_ok.1 h
    cases h
    rfl

theorem agrees_of_decodeHistoryMessage {kind : HistoryKind} {doc : Document}
    {msg : HistoryMessage} (h : decodeHistoryMessage kind doc = .ok msg) :
    msg.agrees kind = true := by
  cases kind with
  | _ =>
    obtain ⟨fields, -, h⟩ := bind_eq_ok.1 h
    cases h
    rfl

/-! ### Values that are decoded to themselves -/

theorem encodeDirective_eq_ok {d : Directive} {doc : Document} (hid : d.id ≠ "")
    (h : encodeDirective d = .ok doc) : doc = directiveWire.encode d.wire := by
  rw [encodeDirective, if_neg hid] at h
  split_ifs at h
  · simp at h
  · exact (Except.ok.inj h).symm

theorem encodeCommand_eq_ok {c : Command} {doc : Document} (hid : c.id ≠ "")
    (h : encodeCommand c = .ok doc) :
    doc = commandWire.encode c.wire ∧ c.senderID ≠ "" := by
  rw [encodeCommand, if_neg hid] at h
  split_ifs at h with hnil hsender
  · simp at h
  · simp at h
  · exact ⟨(Except.ok.inj h).symm, hsender⟩

theorem decodeDirective_eq_iff {d : Directive} {doc : Document} (h : encodeDirective d = .ok doc) :
    decodeDirective doc = .ok d ↔ d.Carried := by
  constructor
  · intro hdecode
    rcases decodeDirective_eq_ok_iff.1 hdecode with ⟨-, -, -, rfl⟩ | ⟨p, hp⟩
    · exact .inl rfl
    have hid : d.id ≠ "" := by
      rw [← hp]
      exact p.id_ne
    have hmsg : d.msg.agrees d.kind = true := by
      rw [← hp]
      exact agrees_of_decodeMessage p.decode_msg
    -- what was written is read back in canonical form
    have hwire : p.wire = { d.wire with runInfo := d.wire.runInfo.canonical } := by
      have hread := decode_encode_directiveWire d.wire
      rw [← encodeDirective_eq_ok hid h] at hread
      exact Option.some_inj.1 (p.decode_doc.symm.trans hread)
    have hinfo : d.runInfo.canonical = d.runInfo :=
      (congrArg DirectiveWire.runInfo hwire).symm.trans (congrArg Directive.runInfo hp)
    exact .inr ⟨⟨hid, hmsg⟩, RunInfo.canonical_eq_self.1 hinfo⟩
  · intro hd
    obtain ⟨doc', hencode, hdecode⟩ := hd.decode_encode
    cases h.symm.trans hencode
    exact hdecode

/-- A message that is read back as itself is of the type of its kind, and canonical. -/
theorem canonical_of_unmarshalCmd {kind : CmdKind} {msg : CommandMessage}
    (h : unmarshalCmd kind (encodeCommandMessage msg) = .ok msg) :
    msg.agrees kind = true ∧ msg.Canonical := by
  have hagrees := agrees_of_unmarshalCmd h
  refine ⟨hagrees, ?_⟩
  cases msg with
  | start info input =>
    obtain rfl : kind = .runStart := by cases kind <;> first | rfl | cases hagrees
    have hread : unmarshalCmd .runStart (encodeCommandMessage (.start info input)) =
        .ok (.start info.canonical input) := by
      rw [unmarshalCmd, encodeCommandMessage, unmarshal_eq_ok.2 (decode_encode_startCmd info input)]
      rfl
    have hinfo := (CommandMessage.start.inj (Except.ok.inj (hread.symm.trans h))).1
    exact RunInfo.canonical_eq_self.1 hinfo
  | _ => trivial

theorem decodeCommand_eq_iff {c : Command} {doc : Document} (h : encodeCommand c = .ok doc) :
    decodeCommand doc = .ok c ↔ c.Carried := by
  constructor
  · intro hdecode
    by_cases hid : c.id = ""
    · obtain ⟨doc', hencode, hzero⟩ := bind_eq_ok.1 (decodeCommand_encodeCommand_zero hid)
      cases h.symm.trans hencode
      exact .inl (Except.ok.inj (hdecode.symm.trans hzero))
    obtain ⟨rfl, hsender⟩ := encodeCommand_eq_ok hid h
    rw [decodeCommand, commandWire.decode_encode _ (valid_commandWire _)] at hdecode
    have hid' : c.wire.id ≠ "" := hid
    simp only [if_neg hid'] at hdecode
    obtain ⟨⟨kind, msg⟩, hcmd, hc⟩ := bind_eq_ok.1 hdecode
    obtain ⟨-, doc', hdoc', hmsg⟩ := decodeCmd_eq_ok_iff.1 (wrap_eq_ok.1 hcmd)
    obtain rfl : encodeCommandMessage c.msg = doc' := Option.some_inj.1 hdoc'
    have hc := pure_eq_ok.1 hc
    obtain rfl : kind = c.kind := congrArg Command.kind hc
    obtain rfl : msg = c.msg := congrArg Command.msg hc
    obtain ⟨hagrees, hstatus⟩ := canonical_of_unmarshalCmd hmsg
    exact .inr ⟨hid, hsender, hagrees, hstatus⟩
  · intro hc
    obtain ⟨doc', hencode, hdecode⟩ := hc.decode_encode
    cases h.symm.trans hencode
    exact hdecode

theorem decodeTimer_eq_iff {t : Timer} {doc : Document} (h : encodeTimer t = .ok doc) :
    decodeTimer doc = .ok t ↔ t.Sendable := by
  constructor
  · intro hdecode
    obtain ⟨directive, hdirective, h⟩ := bind_eq_ok.1 h
    obtain ⟨command, hcommand, h⟩ := bind_eq_ok.1 h
    cases h
    obtain ⟨wire, hwire, hdecode⟩ := bind_eq_ok.1 hdecode
    obtain rfl := Option.some_inj.1
      ((unmarshal_eq_ok.1 hwire).symm.trans (decode_encode_timerWire _))
    obtain ⟨d, hd, hdecode⟩ := bind_eq_ok.1 hdecode
    obtain ⟨c, hc, hdecode⟩ := bind_eq_ok.1 hdecode
    have ht := pure_eq_ok.1 hdecode
    obtain rfl : d = t.directive := congrArg Timer.directive ht
    obtain rfl : c = t.command := congrArg Timer.command ht
    exact ⟨congrArg Timer.kind ht, (decodeDirective_eq_iff hdirective).1 hd,
      (decodeCommand_eq_iff hcommand).1 hc⟩
  · intro ht
    obtain ⟨doc', hencode, hdecode⟩ := bind_eq_ok.1 (decodeTimer_encodeTimer ht)
    cases h.symm.trans hencode
    exact hdecode

theorem decodeRunState_eq_iff {s : RunStateFields Directive} {doc : Document}
    (h : encodeRunState s = .ok doc) :
    decodeRunState doc = .ok s ↔ ∀ d ∈ s.pendingCancel, d.Carried := by
  constructor
  · intro hdecode d hd
    unfold encodeRunState at h
    rw [Option.mem_def.1 hd] at h
    obtain ⟨sub, hsub, h⟩ := bind_eq_ok.1 h
    cases h
    obtain ⟨wire, hwire, hdecode⟩ := bind_eq_ok.1 hdecode
    rw [unmarshal_encode (valid_runStateWire _)] at hwire
    cases hwire
    have hnil := encodeDirective_ne_nil hsub
    -- the pending cancel is read on its own
    have hread : ∃ d', decodeDirective sub = .ok d' ∧ some d' = s.pendingCancel := by
      cases sub with
      | nil => exact absurd rfl hnil
      | _ =>
        obtain ⟨d', hd', hdecode⟩ := bind_eq_ok.1 hdecode
        exact ⟨d', hd', congrArg RunStateFields.pendingCancel (pure_eq_ok.1 hdecode)⟩
    obtain ⟨d', hd', heq⟩ := hread
    obtain rfl := Option.some_inj.1 (heq.trans hd)
    exact (decodeDirective_eq_iff hsub).1 hd'
  · intro hs
    obtain ⟨doc', hencode, hdecode⟩ := bind_eq_ok.1 (decodeRunState_encodeRunState hs)
    cases h.symm.trans hencode
    exact hdecode

theorem decodeHistory_eq_iff {worker : String} {e : HistoryEvent} :
    decodeHistory (encodeHistory worker e) = .ok e ↔ e.msg.agrees e.kind = true ∧
      (e.kind = .recorded → historyMessageFactories.lookup worker = some .recorded) := by
  constructor
  · intro h
    rw [decodeHistory, encodeHistory, historyWire.decode_encode _ (valid_historyWire _)] at h
    simp only at h
    split at h
    · simp at h
    · rename_i kind hkind
      obtain ⟨msg, hmsg, h⟩ := bind_eq_ok.1 h
      have he := pure_eq_ok.1 h
      obtain rfl : kind = e.kind := congrArg HistoryEvent.kind he
      obtain rfl : msg = e.msg := congrArg HistoryEvent.msg he
      refine ⟨agrees_of_decodeHistoryMessage (wrap_eq_ok.1 hmsg), fun hrecorded => ?_⟩
      rwa [hrecorded, HistoryKind.text] at hkind
  · rintro ⟨hagrees, hworker⟩
    exact decodeHistory_encodeHistory hagrees hworker

end Grctl
