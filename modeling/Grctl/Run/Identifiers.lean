import Grctl.Run.BgTask
import Grctl.Text.Template

/-!
# Derived identifiers

Message identifiers share one namespace, that of the stream. Apart from those that clients and
workers choose, the server derives them from other identifiers: the directive that follows another
one, a background task that a directive asks for, and the event that tells a parent run about its
child. Every derivation puts a word and a dot in front, and an identifier that is derived from can
be a derived one itself.

A `Derivation` is the way an identifier was obtained, from a primary identifier without dots. The
identifier can be read back word by word, so that different derivations give different identifiers
(`Derivation.id_injective`). The identifiers of timers are read in the same way.

## Main definitions

* `Derivation`, `Derivation.id`.

## Main results

* `dotted_inj`: a text can be split at its first dot.
* `deriveTimerID_inj`, `Derivation.id_injective`, `derived_ids_never_collide`.
-/

namespace Grctl

open SubjectLog

/-- A text with a dot after its first word is determined by the word and the rest, and conversely
when the word has no dot. -/
theorem dotted_inj {word word' rest rest' : String} (hword : '.' ∉ word.toList)
    (hword' : '.' ∉ word'.toList) :
    word ++ "." ++ rest = word' ++ "." ++ rest' ↔ word = word' ∧ rest = rest' := by
  rw [← String.toList_inj, ← String.toList_inj, ← String.toList_inj]
  simpa using Text.first_sep_inj hword hword'

/-- The kinds of background tasks that the server knows. -/
def BackgroundTaskKind.Declared : BackgroundTaskKind → Prop
  | .other _ => False
  | _ => True

instance (kind : BackgroundTaskKind) : Decidable kind.Declared := by
  cases kind <;> unfold BackgroundTaskKind.Declared <;> infer_instance

namespace BackgroundTaskKind

variable {kind kind' : BackgroundTaskKind}

theorem Declared.dot_not_mem (h : kind.Declared) : '.' ∉ kind.text.toList := by
  cases kind with
  | other text => exact h.elim
  | _ => decide

theorem Declared.text_inj (h : kind.Declared) (h' : kind'.Declared)
    (htext : kind.text = kind'.text) : kind = kind' := by
  cases kind <;> cases kind' <;> first | rfl | exact h.elim | exact h'.elim | simp [text] at htext

end BackgroundTaskKind

/-- The identifier of the event that a notification publishes to the parent run, for the
deduplication identifier of the task. -/
def deriveCallbackID (taskID : DirectiveID) : DirectiveID := "notify." ++ taskID

theorem BgTask.parentDirective_id (now : Time) (task : BackgroundTask)
    (payload : NotifyParentCompletePayload) (parent : RunInfo) :
    (parentDirective now task payload parent).id = deriveCallbackID task.deduplicationID :=
  rfl

/-- How an identifier is obtained: a primary one has no dot, and the server derives others from the
ones there are. -/
inductive Derivation
  | primary (id : DirectiveID) (hid : '.' ∉ id.toList)
  | next (parent : Derivation)
  | bgTask (kind : BackgroundTaskKind) (hkind : kind.Declared) (parent : Derivation)
  | callback (task : Derivation)

namespace Derivation

/-- The identifier that a derivation gives. -/
def id : Derivation → DirectiveID
  | .primary id _ => id
  | .next parent => deriveNextDirectiveID parent.id
  | .bgTask kind _ parent => deriveBgTaskID parent.id kind
  | .callback task => deriveCallbackID task.id

/-- The first word of a derived identifier. -/
def word : Derivation → String
  | .primary id _ => id
  | .next _ => "next"
  | .bgTask .. => "bg"
  | .callback _ => "notify"

/-- What follows the first word of a derived identifier and its dot. -/
def rest : Derivation → Option String
  | .primary .. => none
  | .next parent => some parent.id
  | .bgTask kind _ parent => some (kind.text ++ "." ++ parent.id)
  | .callback task => some task.id

theorem dot_not_mem_word (x : Derivation) : '.' ∉ x.word.toList := by
  cases x with
  | primary id hid => exact hid
  | _ => simp [word]

theorem id_eq_word {x : Derivation} (h : x.rest = none) : x.id = x.word := by
  cases x with
  | primary id hid => rfl
  | _ => cases h

theorem id_eq_dotted {x : Derivation} {rest : String} (h : x.rest = some rest) :
    x.id = x.word ++ "." ++ rest := by
  cases x with
  | primary id hid => cases h
  | _ =>
    cases h
    simp [id, word, deriveNextDirectiveID, deriveBgTaskID, deriveCallbackID, ← String.toList_inj]

/-- The first word and the rest can be read off an identifier. -/
theorem read_id {x y : Derivation} (h : x.id = y.id) : x.word = y.word ∧ x.rest = y.rest := by
  have dotted {z : Derivation} {rest : String} (hz : z.rest = some rest) : '.' ∈ z.id.toList := by
    simp [id_eq_dotted hz]
  cases hx : x.rest with
  | none =>
    cases hy : y.rest with
    | none => exact ⟨by rw [← id_eq_word hx, h, id_eq_word hy], rfl⟩
    | some rest =>
      have hdot := dotted hy
      rw [← h, id_eq_word hx] at hdot
      exact absurd hdot x.dot_not_mem_word
  | some rest =>
    cases hy : y.rest with
    | none =>
      have hdot := dotted hx
      rw [h, id_eq_word hy] at hdot
      exact absurd hdot y.dot_not_mem_word
    | some rest' =>
      rw [id_eq_dotted hx, id_eq_dotted hy,
        dotted_inj x.dot_not_mem_word y.dot_not_mem_word] at h
      exact ⟨h.1, congrArg some h.2⟩

/-- Different derivations give different identifiers. -/
theorem id_injective : Function.Injective id := by
  intro x y h
  -- the constructors have different words, and the rest is read by induction
  induction x generalizing y with
  | primary id hid =>
    obtain ⟨hword, hrest⟩ := read_id h
    cases y with
    | primary id' hid' =>
      cases hword
      rfl
    | _ => cases hrest
  | next parent ih =>
    obtain ⟨hword, hrest⟩ := read_id h
    cases y with
    | next parent' => rw [ih (Option.some.inj hrest)]
    | primary => cases hrest
    | _ => simp [word] at hword
  | bgTask kind hkind parent ih =>
    obtain ⟨hword, hrest⟩ := read_id h
    cases y with
    | bgTask kind' hkind' parent' =>
      obtain ⟨htext, hid⟩ :=
        (dotted_inj hkind.dot_not_mem hkind'.dot_not_mem).1 (Option.some.inj hrest)
      obtain rfl := hkind.text_inj hkind' htext
      rw [ih hid]
    | primary => cases hrest
    | _ => simp [word] at hword
  | callback task ih =>
    obtain ⟨hword, hrest⟩ := read_id h
    cases y with
    | callback task' => rw [ih (Option.some.inj hrest)]
    | primary => cases hrest
    | _ => simp [word] at hword

end Derivation

/-- The identifiers of timers determine the directive and the kind, for kinds without dots. -/
theorem deriveTimerID_inj {id id' : DirectiveID} {kind kind' : TimerKind}
    (hkind : '.' ∉ kind.text.toList) (hkind' : '.' ∉ kind'.text.toList) :
    deriveTimerID id kind = deriveTimerID id' kind' ↔ id = id' ∧ kind.text = kind'.text := by
  rw [deriveTimerID, deriveTimerID, dotted_inj hkind hkind', and_comm]

/-- **Derived identifiers never collide.** Different derivations give different identifiers; a
message is refused as a duplicate only when one whose identifier has the same derivation, and no
other, is stored; and a timer identifier determines the derivation and the kind it is made from. -/
theorem derived_ids_never_collide :
    (∀ x y : Derivation, x.id = y.id → x = y) ∧
    (∀ (dup : Stream → DirectiveID → Bool), (∀ l id, dup l id = true → Log.seen l id = true) →
      ∀ (l : Stream) (m : Msg) (x : Derivation), m.msgId = some x.id →
        l.offer dup m = .error .duplicate →
          ∃ e ∈ l.entries, e.msgId = some x.id ∧ ∀ y : Derivation, e.msgId = some y.id → y = x) ∧
    (∀ (x y : Derivation) (kind kind' : TimerKind),
      '.' ∉ kind.text.toList → '.' ∉ kind'.text.toList →
        deriveTimerID x.id kind = deriveTimerID y.id kind' → x = y ∧ kind.text = kind'.text) := by
  refine ⟨fun x y h => Derivation.id_injective h, ?_, ?_⟩
  · intro dup hdup l m x hid hoffer
    have hseen : l.seen x.id = true := by
      apply hdup
      rw [Log.offer, hid, Option.any_some] at hoffer
      by_contra hnew
      rw [if_neg hnew] at hoffer
      split_ifs at hoffer
      cases hoffer
    obtain ⟨e, he, heid⟩ := List.any_eq_true.1 hseen
    have heid := beq_iff_eq.1 heid
    refine ⟨e, he, heid, fun y hy => Derivation.id_injective (Option.some.inj ?_)⟩
    rw [← hy, heid]
  · intro x y kind kind' hkind hkind' h
    obtain ⟨hid, htext⟩ := (deriveTimerID_inj hkind hkind').1 h
    exact ⟨Derivation.id_injective hid, htext⟩

namespace Sample

/-- The event that tells a parent run about a child whose step `done` completed it. -/
def callback : Derivation :=
  .callback (.bgTask .notifyParentComplete trivial (.next (.primary "done" (by decide))))

/-- A message with the identifier of the event. -/
def callbackMessage : Msg where
  subject := .bgTask
  data := .value .nil
  msgId := some callback.id

/-- A stream that holds the message. -/
def callbackStored : Stream := Log.empty.append callbackMessage

end Sample

/-- The event is refused when it is published twice, because of itself, and the timers of a step
that it starts have an identifier of their own. -/
theorem derived_ids_never_collide_callback :
    Sample.callback.id = "notify.bg.notify_parent_complete.next.done" ∧
    Sample.callbackStored.offer Log.seen Sample.callbackMessage = .error .duplicate ∧
    (∃ e ∈ Sample.callbackStored.entries, e.msgId = some Sample.callback.id ∧
      ∀ y : Derivation, e.msgId = some y.id → y = Sample.callback) ∧
    (∀ y : Derivation,
      deriveTimerID Sample.callback.id .stepTimeout = deriveTimerID y.id .stepTimeout →
        Sample.callback = y) := by
  have hoffer :
      Sample.callbackStored.offer Log.seen Sample.callbackMessage = .error .duplicate := rfl
  refine ⟨by decide, hoffer, derived_ids_never_collide.2.1 Log.seen (fun _ _ h => h)
    Sample.callbackStored Sample.callbackMessage Sample.callback rfl hoffer, fun y hy => ?_⟩
  exact (derived_ids_never_collide.2.2 Sample.callback y .stepTimeout .stepTimeout (by decide)
    (by decide) hy).1

end Grctl
