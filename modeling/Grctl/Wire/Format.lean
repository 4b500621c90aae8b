import Mathlib.Algebra.Group.Int.Defs
import Mathlib.Data.Int.Order.Basic
import Mathlib.Data.List.Nodup

/-!
# Documents and lawful formats

A document is what a self-describing encoding of values is made of: texts, numbers, times, bytes
that hold another document, lists, and maps from tags to documents; `payload` holds a value of an
arbitrary type that is passed through. A `Format` for a type carries the proof that decoding gives
back what was encoded, for the values that it is meant for.

Records are maps from the tags of their fields. `Fields` holds some of the fields of a record: it is
put together field by field with `Fields.field`, which asks for a new tag, and closed by
`Fields.record`. A field that a document lacks has the zero value of its type, a tag that no field
has is skipped, and of two entries with one tag the later one counts. A record is also read from a
list that has one entry for each field, in the order of the fields, and `nil` and the empty list
are read as the zero record.

## Main definitions

* `Doc`, `Format`, `Field`, `Fields`.
* `Format.text`, `Format.int`, `Format.nat`, `Format.uint32`, `Format.time`, `Format.payload`,
  `Format.bin`, `Format.nullable`, `Format.list`, `Format.dict`, `Format.named`.
* `Field.plain`, `Field.omitEmpty`, `Field.raw`, `Fields.make`, `Fields.field`, `Fields.record`.

## Main results

* `Format.decode_encode`, `Field.decode_encode`, `Fields.decode_encode`, carried by the structures.
* `sizeOf_of_finder`: what a record is decoded from is smaller than the record.
-/

namespace Grctl.Wire

/-- A document. -/
inductive Doc (V : Type)
  | nil
  | text (s : String)
  | int (n : ℤ)
  | time (t : ℤ)
  | payload (v : V)
  | bin (content : Doc V)
  | list (items : List (Doc V))
  | map (entries : List (String × Doc V))

/-- A format for the values of a type that satisfy `Valid`. -/
structure Format (V α : Type) where
  encode : α → Doc V
  decode : Doc V → Option α
  Valid : α → Prop
  decode_encode : ∀ a, Valid a → decode (encode a) = some a

/-! ### Formats of plain values -/

namespace Format

variable {V α β : Type}

/-- Texts; a missing text is empty. -/
def text : Format V String where
  encode := .text
  decode
    | .text s => some s
    | .nil => some ""
    | _ => none
  Valid _ := True
  decode_encode _ _ := rfl

/-- Signed numbers. -/
def int : Format V ℤ where
  encode := .int
  decode
    | .int n => some n
    | .nil => some 0
    | _ => none
  Valid _ := True
  decode_encode _ _ := rfl

/-- Unsigned numbers of 64 bits, as natural numbers; a negative number wraps around. -/
def nat : Format V ℕ where
  encode n := .int n
  decode
    | .int n => some (if 0 ≤ n then n.toNat else (n + 2 ^ 64).toNat)
    | .nil => some 0
    | _ => none
  Valid _ := True
  decode_encode n _ := by simp

/-- Unsigned numbers of 32 bits; a larger number is cut off. -/
def uint32 : Format V UInt32 where
  encode n := .int n.toNat
  decode
    | .int n => some (UInt32.ofNat (n % 2 ^ 32).toNat)
    | .nil => some 0
    | _ => none
  Valid _ := True
  decode_encode n _ := by
    have hlt := n.toNat_lt
    have hmod : ((n.toNat : ℤ) % 2 ^ 32).toNat = n.toNat := by omega
    simp only [hmod, UInt32.ofNat_toNat]

/-- Times. -/
def time : Format V ℤ where
  encode := .time
  decode
    | .time t => some t
    | _ => none
  Valid _ := True
  decode_encode _ _ := rfl

/-- Values that are passed through; `nil` stands for the value `zero`. -/
def payload (zero : V) : Format V V where
  encode := .payload
  decode
    | .payload v => some v
    | .nil => some zero
    | _ => none
  Valid _ := True
  decode_encode _ _ := rfl

/-- Bytes that hold a document; no bytes are written as `nil`. -/
def bin : Format V (Option (Doc V)) where
  encode
    | none => .nil
    | some content => .bin content
  decode
    | .bin content => some (some content)
    | .nil => some none
    | _ => none
  Valid _ := True
  decode_encode o _ := by cases o <;> rfl

/-- Optional values, for a format that does not use `nil`. -/
def nullable (f : Format V α) (hnil : ∀ a, f.encode a ≠ .nil) : Format V (Option α) where
  encode
    | none => .nil
    | some a => f.encode a
  decode
    | .nil => some none
    | doc => (f.decode doc).map some
  Valid o := ∀ a ∈ o, f.Valid a
  decode_encode o ho := by
    cases o with
    | none => rfl
    | some a =>
      have ha := f.decode_encode a (ho a rfl)
      have hne := hnil a
      cases hdoc : f.encode a <;> simp_all

/-- Lists. -/
def list (f : Format V α) : Format V (List α) where
  encode as := .list (as.map f.encode)
  decode
    | .list items => items.mapM f.decode
    | .nil => some []
    | _ => none
  Valid as := ∀ a ∈ as, f.Valid a
  decode_encode as has := by
    induction as with
    | nil => rfl
    | cons a as ih =>
      obtain ⟨ha, has⟩ := List.forall_mem_cons.1 has
      simp only [List.map_cons, List.mapM_cons, f.decode_encode a ha, ih has]
      rfl

/-- Maps whose keys are data, listed in the order in which they are written. -/
def dict (f : Format V α) : Format V (List (String × α)) where
  encode entries := .map (entries.map fun entry => (entry.1, f.encode entry.2))
  decode
    | .map entries => entries.mapM fun entry => (f.decode entry.2).map fun a => (entry.1, a)
    | .nil => some []
    | _ => none
  Valid entries := ∀ entry ∈ entries, f.Valid entry.2
  decode_encode entries hentries := by
    induction entries with
    | nil => rfl
    | cons entry entries ih =>
      obtain ⟨hentry, hentries⟩ := List.forall_mem_cons.1 hentries
      simp only [List.map_cons, List.mapM_cons, f.decode_encode _ hentry, ih hentries]
      rfl

/-- Values that are written as the texts of their names. -/
def named (name : α → String) (ofName : String → Option α) : Format V α where
  encode a := .text (name a)
  decode doc := (text.decode doc).bind ofName
  Valid a := ofName (name a) = some a
  decode_encode _ ha := ha

section Valid

@[simp] theorem valid_text (s : String) : (text : Format V String).Valid s := trivial

@[simp] theorem valid_int (n : ℤ) : (int : Format V ℤ).Valid n := trivial

@[simp] theorem valid_nat (n : ℕ) : (nat : Format V ℕ).Valid n := trivial

@[simp] theorem valid_uint32 (n : UInt32) : (uint32 : Format V UInt32).Valid n := trivial

@[simp] theorem valid_time (t : ℤ) : (time : Format V ℤ).Valid t := trivial

@[simp] theorem valid_payload (zero v : V) : (payload zero).Valid v := trivial

@[simp] theorem valid_bin (o : Option (Doc V)) : bin.Valid o := trivial

@[simp]
theorem valid_nullable (f : Format V α) (hnil : ∀ a, f.encode a ≠ .nil) (o : Option α) :
    (f.nullable hnil).Valid o ↔ ∀ a ∈ o, f.Valid a :=
  Iff.rfl

@[simp]
theorem valid_list (f : Format V α) (as : List α) : f.list.Valid as ↔ ∀ a ∈ as, f.Valid a :=
  Iff.rfl

@[simp]
theorem valid_dict (f : Format V α) (entries : List (String × α)) :
    f.dict.Valid entries ↔ ∀ entry ∈ entries, f.Valid entry.2 :=
  Iff.rfl

@[simp]
theorem valid_named (name : α → String) (ofName : String → Option α) (a : α) :
    (named name ofName : Format V α).Valid a ↔ ofName (name a) = some a :=
  Iff.rfl

end Valid

end Format

/-! ### Fields of records -/

/-- One field of a record under a tag: what it is written as, if it is written at all, and how it is
read when it is there and when it is missing. -/
structure Field (V α : Type) where
  tag : String
  encode : α → Option (Doc V)
  decode : Option (Doc V) → Option α
  Valid : α → Prop
  decode_encode : ∀ a, Valid a → decode (encode a) = some a

namespace Field

variable {V α : Type}

/-- A field that is always written. -/
def plain (tag : String) (f : Format V α) (zero : α) : Field V α where
  tag := tag
  encode a := some (f.encode a)
  decode
    | none => some zero
    | some doc => f.decode doc
  Valid := f.Valid
  decode_encode := f.decode_encode

/-- A field that is left out when it has the zero value. -/
def omitEmpty [DecidableEq α] (tag : String) (f : Format V α) (zero : α) : Field V α where
  tag := tag
  encode a := if a = zero then none else some (f.encode a)
  decode
    | none => some zero
    | some doc => f.decode doc
  Valid a := a = zero ∨ f.Valid a
  decode_encode a ha := by
    by_cases hzero : a = zero
    · simp [hzero]
    · simpa [hzero] using f.decode_encode a (ha.resolve_left hzero)

/-- A field that is kept as the document it is. -/
def raw (tag : String) : Field V (Option (Doc V)) where
  tag := tag
  encode o := o
  decode := some
  Valid _ := True
  decode_encode _ _ := rfl

theorem encode_plain (tag : String) (f : Format V α) (zero a : α) :
    (plain tag f zero).encode a = some (f.encode a) :=
  rfl

@[simp]
theorem valid_plain (tag : String) (f : Format V α) (zero a : α) :
    (plain tag f zero).Valid a ↔ f.Valid a :=
  Iff.rfl

@[simp]
theorem valid_omitEmpty [DecidableEq α] (tag : String) (f : Format V α) (zero a : α) :
    (omitEmpty tag f zero).Valid a ↔ a = zero ∨ f.Valid a :=
  Iff.rfl

@[simp] theorem valid_raw (tag : String) (o : Option (Doc V)) : (raw tag).Valid o := trivial

end Field

/-- Some of the fields of a record of type `σ`, together with what is made of them: a function that
awaits the other fields, or the record. -/
structure Fields (V σ β : Type) where
  tags : List String
  encode : σ → List (String × Doc V)
  decode : (String → Option (Doc V)) → Option β
  value : σ → β
  Valid : σ → Prop
  nodup : tags.Nodup
  sublist : ∀ r, ((encode r).map Prod.fst).Sublist tags
  decode_encode : ∀ r, Valid r → ∀ find : String → Option (Doc V),
    (∀ tag ∈ tags, find tag = (encode r).lookup tag) → decode find = some (value r)

section Lookup

variable {V : Type} {entries entries' : List (String × Doc V)} {tag : String} {doc : Doc V}

theorem lookup_eq_none (h : tag ∉ entries.map Prod.fst) : entries.lookup tag = none := by
  refine List.lookup_eq_none_iff.2 fun entry hentry => ?_
  have hne : tag ≠ entry.1 := by
    rintro rfl
    exact h (List.mem_map_of_mem hentry)
  simpa using hne

theorem mem_of_lookup (h : entries.lookup tag = some doc) : (tag, doc) ∈ entries := by
  obtain ⟨before, after, rfl, -⟩ := List.lookup_eq_some_iff.1 h
  simp

theorem lookup_of_mem (hnodup : (entries.map Prod.fst).Nodup) (h : (tag, doc) ∈ entries) :
    entries.lookup tag = some doc := by
  obtain ⟨before, after, rfl⟩ := List.append_of_mem h
  refine List.lookup_eq_some_iff.2 ⟨before, after, rfl, fun entry hentry => ?_⟩
  rw [List.map_append, List.nodup_append] at hnodup
  have hne := hnodup.2.2 entry.1 (List.mem_map_of_mem hentry) tag (by simp)
  simpa using hne.symm

/-- With distinct tags the order of the entries does not matter. -/
theorem lookup_reverse (hnodup : (entries.map Prod.fst).Nodup) :
    entries.reverse.lookup tag = entries.lookup tag := by
  by_cases h : tag ∈ entries.map Prod.fst
  · obtain ⟨entry, hentry, rfl⟩ := List.mem_map.1 h
    rw [lookup_of_mem hnodup hentry, lookup_of_mem _ (List.mem_reverse.2 hentry)]
    rwa [List.map_reverse, List.nodup_reverse]
  · rw [lookup_eq_none h, lookup_eq_none (by simpa using h)]

end Lookup

namespace Fields

variable {V σ α β : Type}

/-- No field yet. -/
def make (mk : β) : Fields V σ β where
  tags := []
  encode _ := []
  decode _ := some mk
  value _ := mk
  Valid _ := True
  nodup := List.nodup_nil
  sublist _ := List.Sublist.refl _
  decode_encode _ _ _ _ := rfl

/-- One more field, with a tag that no field has so far. -/
def field (fs : Fields V σ (α → β)) (f : Field V α) (get : σ → α) (h : f.tag ∉ fs.tags) :
    Fields V σ β where
  tags := fs.tags ++ [f.tag]
  encode r := fs.encode r ++ ((f.encode (get r)).map fun doc => (f.tag, doc)).toList
  decode find := (fs.decode find).bind fun mk => (f.decode (find f.tag)).map mk
  value r := fs.value r (get r)
  Valid r := fs.Valid r ∧ f.Valid (get r)
  nodup := fs.nodup.append (List.nodup_singleton _) (List.disjoint_singleton.2 h)
  sublist r := by
    rw [List.map_append]
    refine (fs.sublist r).append ?_
    cases f.encode (get r) <;> simp
  decode_encode r hr find hfind := by
    have hfs : ∀ tag ∈ fs.tags, find tag = (fs.encode r).lookup tag := by
      intro tag htag
      have hne : (tag == f.tag) = false := beq_false_of_ne fun heq => h (heq ▸ htag)
      rw [hfind tag (List.mem_append_left _ htag), List.lookup_append]
      cases f.encode (get r) <;> simp [List.lookup_cons, hne]
    have hf : find f.tag = f.encode (get r) := by
      have hnone : (fs.encode r).lookup f.tag = none :=
        lookup_eq_none fun hmem => h ((fs.sublist r).subset hmem)
      rw [hfind f.tag (by simp), List.lookup_append, hnone]
      cases f.encode (get r) <;> simp
    rw [fs.decode_encode r hr.1 find hfs, hf, Option.bind_some, f.decode_encode _ hr.2,
      Option.map_some]

theorem encode_make (mk : β) (r : σ) : (make mk : Fields V σ β).encode r = [] :=
  rfl

theorem encode_field (fs : Fields V σ (α → β)) (f : Field V α) (get : σ → α)
    (h : f.tag ∉ fs.tags) (r : σ) :
    (fs.field f get h).encode r =
      fs.encode r ++ ((f.encode (get r)).map fun doc => (f.tag, doc)).toList :=
  rfl

theorem decode_make {mk b : β} {find : String → Option (Doc V)} :
    (make mk : Fields V σ β).decode find = some b ↔ mk = b :=
  Option.some_inj

theorem decode_field {fs : Fields V σ (α → β)} {f : Field V α} {get : σ → α}
    {h : f.tag ∉ fs.tags} {find : String → Option (Doc V)} {b : β} :
    (fs.field f get h).decode find = some b ↔
      ∃ mk a, fs.decode find = some mk ∧ f.decode (find f.tag) = some a ∧ mk a = b := by
  simp [field, Option.bind_eq_some_iff, Option.map_eq_some_iff]

@[simp] theorem valid_make (mk : β) (r : σ) : (make mk : Fields V σ β).Valid r := trivial

@[simp]
theorem valid_field (fs : Fields V σ (α → β)) (f : Field V α) (get : σ → α)
    (h : f.tag ∉ fs.tags) (r : σ) :
    (fs.field f get h).Valid r ↔ fs.Valid r ∧ f.Valid (get r) :=
  Iff.rfl

end Fields

/-! ### Records -/

/-- Where a record with the given tags finds its fields in a document, if the document can be
read as such a record. -/
def finder {V : Type} (tags : List String) : Doc V → Option (String → Option (Doc V))
  | .nil => some fun _ => none
  | .map entries => some fun tag => entries.reverse.lookup tag
  | .list [] => some fun _ => none
  | .list items =>
    if items.length = tags.length then some fun tag => (tags.zip items).lookup tag else none
  | _ => none

/-- A field of a record is smaller than the record. -/
theorem sizeOf_of_finder {V : Type} [SizeOf V] {tags : List String} {doc sub : Doc V}
    {find : String → Option (Doc V)} (hfind : finder tags doc = some find) {tag : String}
    (h : find tag = some sub) : sizeOf sub < sizeOf doc := by
  unfold finder at hfind
  split at hfind
  · cases hfind
    cases h
  · rename_i entries
    cases hfind
    have hmem := List.sizeOf_lt_of_mem (List.mem_reverse.1 (mem_of_lookup h))
    simp only [Prod.mk.sizeOf_spec, Doc.map.sizeOf_spec] at hmem ⊢
    omega
  · cases hfind
    cases h
  · rename_i items _
    split_ifs at hfind
    cases hfind
    have hmem := List.sizeOf_lt_of_mem (List.of_mem_zip (mem_of_lookup h)).2
    simp only [Doc.list.sizeOf_spec]
    omega
  · cases hfind

namespace Fields

variable {V σ : Type}

/-- The format of the record that is made of its fields. -/
def record (fs : Fields V σ σ) (h : ∀ r, fs.value r = r) : Format V σ where
  encode r := .map (fs.encode r)
  decode doc := (finder fs.tags doc).bind fs.decode
  Valid := fs.Valid
  decode_encode r hr := by
    have hnodup := (fs.sublist r).nodup fs.nodup
    have hdecode := fs.decode_encode r hr (fun tag => (fs.encode r).reverse.lookup tag)
      fun tag _ => lookup_reverse hnodup
    rw [h] at hdecode
    exact hdecode

/-- Records with the same entries are written alike. -/
theorem encode_record_congr {fs : Fields V σ σ} {h : ∀ r, fs.value r = r} {r r' : σ}
    (hentries : fs.encode r = fs.encode r') : (fs.record h).encode r = (fs.record h).encode r' :=
  congrArg Doc.map hentries

theorem encode_record_ne_nil {fs : Fields V σ σ} {h : ∀ r, fs.value r = r} {r : σ} :
    (fs.record h).encode r ≠ .nil :=
  fun heq => by cases heq

theorem decode_record {fs : Fields V σ σ} {h : ∀ r, fs.value r = r} {doc : Doc V} {r : σ} :
    (fs.record h).decode doc = some r ↔
      ∃ find, finder fs.tags doc = some find ∧ fs.decode find = some r := by
  simp [record, Option.bind_eq_some_iff]

theorem valid_record {fs : Fields V σ σ} {h : ∀ r, fs.value r = r} {r : σ} (hr : fs.Valid r) :
    (fs.record h).Valid r :=
  hr

end Fields

end Grctl.Wire
