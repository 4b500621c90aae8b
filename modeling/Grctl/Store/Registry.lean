import Mathlib.Data.List.Dedup
import Grctl.Log.Rollup
import Grctl.Run.Service
import Grctl.Text.Wildcard

/-!
# The registry of workflow types

Workers send the definitions of their workflow types when they start. `jsstore/registry.go` stores
each definition in place of the earlier one of its type, in one batch for a whole catalogue, and
reads them back by type. All workers that serve a type write to the same subject, so that the
definition in force is the one that was sent last, whoever sent it.

The subjects of the registry are its own, one for each type; they are kept in a log of their own
here. A type is any text that a worker sends. The stream refuses a catalogue as a whole if a type
cannot be part of a subject, or if a type is named twice, since a batch may not replace the messages
of a subject twice. NATS reads the subject of a lookup, and that of a message which replaces earlier
ones, as a pattern: the type `*` stands for all types that are single tokens.

## Main definitions

* `RegistryEntry`, `RegistryLog`, `Registration.Accepted`, `Registry.putTypes`.
* `Registry.getType`, `Registry.getStartStepTimeout`, `Registry.getEventDef`, `Registry.listTypes`.
* `Registry.registered`: the registry after a sequence of registrations.

## Main results

* `Registry.registered_reads_last`: every read of the registry, after any registrations of types
  without wildcards.
-/

namespace Grctl

open SubjectLog Text

/-- `RegistryEntry`. -/
structure RegistryEntry extends WorkflowTypeDef where
  workerID : String
  registeredAt : Time
  deriving DecidableEq, Repr

/-- The registry's part of the stream: the subject of an entry is its type. -/
abbrev RegistryLog := Log WFType DirectiveID RegistryEntry

/-- One call of `PutTypes`: a worker's catalogue, and the time at which it is stored. -/
structure Registration where
  workerID : String
  registeredAt : Time
  types : List WorkflowTypeDef
  deriving DecidableEq, Repr

/-- The entries of a catalogue. -/
def Registration.entries (r : Registration) : List RegistryEntry :=
  r.types.map fun d => { d with workerID := r.workerID, registeredAt := r.registeredAt }

/-- The stream takes the batch of a catalogue: every type can be part of a subject, and none is
named twice. -/
def Registration.Accepted (r : Registration) : Prop :=
  (∀ d ∈ r.types, SubjectText d.type) ∧ (r.types.map fun d => d.type).Nodup
  deriving Decidable

namespace Registry

/-- Whether the subject of the first type, read as a pattern, matches that of the second. -/
def covers (pattern wfType : WFType) : Bool :=
  matchesPattern '*' '>' '.' pattern.toList wfType.toList

/-- The message of an entry. -/
def message (e : RegistryEntry) : Message WFType DirectiveID RegistryEntry where
  subject := e.type
  data := e

/-- The message of an entry is stored in place of the earlier ones of its type. -/
def store (l : RegistryLog) (e : RegistryEntry) : RegistryLog :=
  (l.purge (covers e.type)).append (message e)

/-- What `PutTypes` stores: the whole catalogue or nothing. -/
def putTypes (l : RegistryLog) (r : Registration) : RegistryLog :=
  if r.Accepted then r.entries.foldl store l else l

/-- `GetType`; a type that cannot be part of a subject is an error of NATS. -/
def getType (l : RegistryLog) (wfType : WFType) : Result RegistryEntry :=
  if SubjectText wfType then
    match l.lastWhere (covers wfType) with
    | none => .error Sentinel.workflowTypeNotRegistered.error
    | some e => .ok e.data
  else
    .error
      { message := "failed to get registry entry for type " ++ wfType ++ ": nats: invalid subject" }

/-- `GetStartStepTimeout`. -/
def getStartStepTimeout (l : RegistryLog) (wfType : WFType) : Result UInt32 := do
  let entry ← getType l wfType
  return entry.startStepTimeoutMS

/-- The definition of an event in an entry: the first one with its name, or the zero value. -/
def eventDef (entry : RegistryEntry) (eventName : String) : EventDef :=
  (entry.events.find? fun ed => ed.name == eventName).getD {}

/-- `GetEventDef`. -/
def getEventDef (l : RegistryLog) (wfType : WFType) (eventName : String) : Result EventDef := do
  let entry ← getType l wfType
  return eventDef entry eventName

/-- `ListTypes`. -/
def listTypes (l : RegistryLog) : List RegistryEntry :=
  (l.latest fun _ => true).map fun e => e.data

/-- The registry as the service reads it. -/
def reader (l : RegistryLog) : Service.Registry where
  getStartStepTimeout := getStartStepTimeout l
  getEventDef := getEventDef l

/-- The registry after a sequence of registrations. -/
def registered (calls : List Registration) : RegistryLog := calls.foldl putTypes .empty

/-- The entries that a sequence of registrations stores, in the order in which they were sent. -/
def sent (calls : List Registration) : List RegistryEntry :=
  (calls.filter fun r => r.Accepted).flatMap Registration.entries

/-! ### Types without wildcards -/

/-- A text that has no wildcards, read as a pattern. -/
def Plain (wfType : WFType) : Prop :=
  ['*'] ∉ wfType.toList.splitOn '.' ∧ ['>'] ∉ wfType.toList.splitOn '.'
  deriving Decidable

theorem covers_eq_decide {pattern : WFType} (h : Plain pattern) (wfType : WFType) :
    covers pattern wfType = decide (wfType = pattern) := by
  rw [covers, matchesPattern_of_literal h.1 h.2, decide_eq_decide, String.toList_inj, eq_comm]

/-- The entries of the registrations have types without wildcards. -/
def AllPlain (calls : List Registration) : Prop :=
  ∀ r ∈ calls, ∀ d ∈ r.types, Plain d.type
  deriving Decidable

theorem plain_of_mem_sent {calls : List Registration} (h : AllPlain calls) {e : RegistryEntry}
    (he : e ∈ sent calls) : Plain e.type := by
  obtain ⟨r, hr, he⟩ := List.mem_flatMap.mp he
  obtain ⟨d, hd, rfl⟩ := List.mem_map.mp he
  exact h r (List.mem_of_mem_filter hr) d hd

/-! ### The registry as one sequence of entries -/

theorem registered_eq_foldl (calls : List Registration) :
    registered calls = (sent calls).foldl store .empty := by
  have hfold (l : RegistryLog) : calls.foldl putTypes l = (sent calls).foldl store l := by
    induction calls generalizing l with
    | nil => rfl
    | cons r calls ih =>
      rw [List.foldl_cons, ih, sent, sent, putTypes]
      by_cases hr : r.Accepted
      · rw [if_pos hr, List.filter_cons_of_pos (by simpa using hr), List.flatMap_cons,
          List.foldl_append]
      · rw [if_neg hr, List.filter_cons_of_neg (by simpa using hr)]
  exact hfold .empty

theorem foldl_store_eq {es : List RegistryEntry} (h : ∀ e ∈ es, Plain e.type) (l : RegistryLog) :
    es.foldl store l = l.rollupAll (es.map message) := by
  induction es generalizing l with
  | nil => rfl
  | cons e es ih =>
    have hstore : store l e = l.rollup (message e) := by
      rw [store, Log.rollup, funext (covers_eq_decide (h e List.mem_cons_self))]
      rfl
    rw [List.foldl_cons, hstore, ih fun e' he' => h e' (List.mem_cons_of_mem e he')]
    rfl

/-- Without wildcards the registry is a map that is written entry by entry. -/
theorem registered_eq {calls : List Registration} (h : AllPlain calls) :
    registered calls = Log.empty.rollupAll ((sent calls).map message) := by
  rw [registered_eq_foldl, foldl_store_eq fun e => plain_of_mem_sent h]

/-- The entry in force for a type: the last one that was sent. -/
def inForce (calls : List Registration) (wfType : WFType) : Option RegistryEntry :=
  ((sent calls).filter fun e => e.type = wfType).getLast?

theorem contents_registered {calls : List Registration} (h : AllPlain calls) (wfType : WFType) :
    (registered calls).contents wfType = inForce calls wfType := by
  rw [registered_eq h, Log.contents_rollupAll, List.foldl_map]
  refine (Log.foldl_update_eq (fun e : RegistryEntry => e.type) id (sent calls)
    Log.empty.contents wfType).trans ?_
  rw [Option.map_id]
  exact Option.or_none ..

theorem type_of_inForce {calls : List Registration} {wfType : WFType} {e : RegistryEntry}
    (h : inForce calls wfType = some e) : e.type = wfType :=
  of_decide_eq_true (List.mem_filter.mp (List.mem_of_getLast? h)).2

theorem getType_eq (l : RegistryLog) {wfType : WFType} (htext : SubjectText wfType)
    (h : Plain wfType) :
    getType l wfType =
      (l.contents wfType).elim (.error Sentinel.workflowTypeNotRegistered.error) .ok := by
  rw [getType, if_pos htext, Log.contents, Log.lastOn_eq_lastWhere, funext (covers_eq_decide h)]
  cases l.lastWhere fun s => decide (s = wfType) <;> rfl

theorem mem_listTypes {l : RegistryLog} {e : RegistryEntry} :
    e ∈ listTypes l ↔ ∃ wfType, l.contents wfType = some e := by
  rw [listTypes, List.mem_map]
  constructor
  · rintro ⟨entry, hentry, rfl⟩
    exact ⟨entry.subject, by rw [Log.contents, (Log.mem_latest.mp hentry).1]; rfl⟩
  · rintro ⟨wfType, h⟩
    obtain ⟨entry, hentry, rfl⟩ := Option.map_eq_some_iff.mp h
    refine ⟨entry, Log.mem_latest.mpr ⟨?_, rfl⟩, rfl⟩
    rw [(Log.mem_of_lastOn hentry).2.2, hentry]

section Registered

variable {calls : List Registration} (h : AllPlain calls)

include h

theorem mem_listTypes_registered {e : RegistryEntry} :
    e ∈ listTypes (registered calls) ↔ inForce calls e.type = some e := by
  simp only [mem_listTypes, contents_registered h]
  constructor
  · rintro ⟨wfType, h⟩
    rwa [type_of_inForce h]
  · exact fun h => ⟨_, h⟩

theorem nodup_listTypes : ((listTypes (registered calls)).map fun e => e.type).Nodup := by
  have hkey {entry : Entry WFType DirectiveID RegistryEntry}
      (hmem : entry ∈ (registered calls).latest fun _ => true) :
      entry.data.type = entry.subject := by
    have hforce : inForce calls entry.subject = some entry.data := by
      rw [← contents_registered h, Log.contents, (Log.mem_latest.mp hmem).1]
      rfl
    exact type_of_inForce hforce
  rw [listTypes, List.map_map]
  refine List.Nodup.map_on (fun e he e' he' heq => Log.eq_of_mem_latest he he' ?_)
    (((registered calls).pairwise_latest _).imp fun hlt heq => absurd (heq ▸ hlt) (lt_irrefl _))
  rw [← hkey he, ← hkey he']
  exact heq

/-- The types that were ever stored are those that are kept, each with one message. -/
theorem perm_liveSubjects :
    (registered calls).liveSubjects.Perm ((sent calls).map fun e => e.type).dedup := by
  rw [registered_eq h]
  have hnodup : (Log.empty : RegistryLog).liveSubjects.Nodup := List.nodup_nil
  refine (List.perm_ext_iff_of_nodup (Log.nodup_liveSubjects_rollupAll hnodup _)
    (List.nodup_dedup _)).mpr fun wfType => ?_
  rw [Log.mem_liveSubjects_rollupAll, List.mem_dedup]
  simp [Log.liveSubjects, Log.empty, message]

theorem getType_registered {wfType : WFType} (htext : SubjectText wfType)
    (hplain : Plain wfType) :
    getType (registered calls) wfType =
      (inForce calls wfType).elim (.error Sentinel.workflowTypeNotRegistered.error) .ok := by
  rw [getType_eq _ htext hplain, contents_registered h]

end Registered

/-- After any sequence of registrations of types without wildcards, every read of a type goes to the
last definition of it in a catalogue that was accepted, whichever worker sent it. The list of the
types has these definitions and no others, one for each type, and the stream keeps one message for
each type that was ever stored. -/
theorem registered_reads_last {calls : List Registration} (h : AllPlain calls) :
    (∀ wfType, SubjectText wfType → Plain wfType →
      getType (registered calls) wfType =
        (inForce calls wfType).elim (.error Sentinel.workflowTypeNotRegistered.error) .ok ∧
      getStartStepTimeout (registered calls) wfType =
        (inForce calls wfType).elim (.error Sentinel.workflowTypeNotRegistered.error)
          (fun entry => .ok entry.startStepTimeoutMS) ∧
      ∀ eventName, getEventDef (registered calls) wfType eventName =
        (inForce calls wfType).elim (.error Sentinel.workflowTypeNotRegistered.error)
          (fun entry => .ok (eventDef entry eventName))) ∧
    ((listTypes (registered calls)).map fun e => e.type).Nodup ∧
    (∀ e, e ∈ listTypes (registered calls) ↔ inForce calls e.type = some e) ∧
    (registered calls).liveSubjects.length = ((sent calls).map fun e => e.type).dedup.length := by
  refine ⟨fun wfType htext hplain => ⟨getType_registered h htext hplain, ?_, fun eventName => ?_⟩,
    nodup_listTypes h, fun e => mem_listTypes_registered h, (perm_liveSubjects h).length_eq⟩
  · rw [getStartStepTimeout, getType_registered h htext hplain]
    cases inForce calls wfType <;> rfl
  · rw [getEventDef, getType_registered h htext hplain]
    cases inForce calls wfType <;> rfl

namespace Sample

/-- A definition of the type `order` with one event. -/
def order (startTimeout eventTimeout : UInt32) : WorkflowTypeDef :=
  ⟨"order", "start", ["start"], [⟨"paid", eventTimeout⟩], [], startTimeout⟩

/-- Two workers send definitions of one type, and a third sends a catalogue that names the type
twice. -/
def registrations : List Registration :=
  [⟨"w1", 1, [order 10 20]⟩, ⟨"w2", 2, [order 30 40]⟩, ⟨"w3", 3, [order 50 60, order 70 80]⟩]

end Sample

/-- The second worker's definition is in force: the third one's catalogue is refused. -/
theorem registered_reads_last_replaced :
    inForce Sample.registrations "order" =
        some ⟨Sample.order 30 40, "w2", 2⟩ ∧
      getStartStepTimeout (registered Sample.registrations) "order" = .ok 30 ∧
      getEventDef (registered Sample.registrations) "order" "paid" = .ok ⟨"paid", 40⟩ := by
  have hforce : inForce Sample.registrations "order" = some ⟨Sample.order 30 40, "w2", 2⟩ := by
    decide +kernel
  have hplain : AllPlain Sample.registrations := by decide +kernel
  obtain ⟨hreads, -⟩ := registered_reads_last hplain
  obtain ⟨-, htimeout, hevent⟩ := hreads "order" (by decide +kernel) (by decide +kernel)
  rw [hforce] at htimeout hevent
  exact ⟨hforce, htimeout, hevent "paid"⟩

end Registry

end Grctl
