import Gazette.Client.Basic
import Gazette.Proofs.Wire.Conformance

/-! # Which values are answers

An answer holds data of a form, or errors, or both. Sent as an array it has to tell of its data,
if only by `null`. -/
namespace Gazette

open Json (Tells Given IsText IsList IsSome IsArticle IsDocument Absent)

namespace Json

inductive IsErrorEntry : Json → ErrorEntry → Prop
  | told {v : Json} {es : List (String × Json)} {e : ErrorEntry}
      (told : v.Tells ["message", "path"] es)
      (message : Given IsText "" (es.lookup "message") e.message)
      (path : Given (IsList Eq) [] (es.lookup "path") e.path) : IsErrorEntry v e

inductive IsEnvelope {α : Type} (form : Json → α → Prop) : Json → Envelope α → Prop
  | told {v : Json} {es : List (String × Json)} {e : Envelope α}
      (told : v.Tells ["data", "errors"] es) (nonempty : v ≠ .arr [])
      (data : Given (IsSome form) none (es.lookup "data") e.data)
      (errors : Given (IsList IsErrorEntry) [] (es.lookup "errors") e.errors) :
      IsEnvelope form v e

inductive IsSlot : Json → Slot → Prop
  | told {v : Json} {es : List (String × Json)} {s : Slot} (told : v.Tells ["entity"] es)
      (entity : Given (IsSome IsDocument) none (es.lookup "entity") s.entity) : IsSlot v s

inductive IsSlots : Json → Slots → Prop
  | told {v : Json} {es : List (String × Json)} {s : Slots} (told : v.Tells ["nodes"] es)
      (nodes : Given (IsList IsSlot) [] (es.lookup "nodes") s.nodes) : IsSlots v s

inductive IsListing : Json → Listing → Prop
  | told {v : Json} {es : List (String × Json)} {l : Listing} (told : v.Tells ["documents"] es)
      (slots : Given IsSlots {} (es.lookup "documents") l.slots) : IsListing v l

inductive IsFound : Json → Found → Prop
  | told {v : Json} {es : List (String × Json)} {f : Found} (told : v.Tells ["article"] es)
      (article : Given (IsSome IsArticle) none (es.lookup "article") f.article) : IsFound v f

/-- What a record tells of a field, by its key or by its place. -/
def told? (keys : List String) (key : String) : Json → Option Json
  | .obj es => es.lookup key
  | .arr vs => (keys.zip vs).lookup key
  | _ => none

/-- The data of an answer. -/
def data? : Json → Option Json := told? ["data", "errors"] "data"

/-- The article among the data. -/
def article? : Json → Option Json := told? ["article"] "article"

theorem Tells.lookup_eq {keys : List String} {v : Json} {es : List (String × Json)}
    (h : v.Tells keys es) (key : String) : es.lookup key = v.told? keys key := by
  cases h <;> rfl

section
variable {α : Type} {form : Json → α → Prop} {w : Option Json} {x : α}

/-- A field that may hold none does so exactly if nothing is told of it. -/
theorem Given.eq_none_iff {o : Option α} (hnull : ∀ x, ¬ form .null x)
    (h : Given (IsSome form) none w o) : o = none ↔ Absent w := by
  cases h with
  | absent => exact iff_of_true rfl (.inl rfl)
  | null => exact iff_of_true rfl (.inr rfl)
  | value h =>
    obtain ⟨h⟩ := h
    refine iff_of_false nofun ?_
    rintro (hnone | hn)
    · cases hnone
    · cases hn
      exact hnull _ h

theorem Given.of_some (h : Given (IsSome form) none w (some x)) : ∃ v, w = some v ∧ form v x := by
  cases h with
  | value h =>
    obtain ⟨h⟩ := h
    exact ⟨_, rfl, h⟩

theorem IsEnvelope.data {v : Json} {e : Envelope α} (h : IsEnvelope form v e) :
    Given (IsSome form) none v.data? e.data := by
  obtain ⟨told, -, hdata, -⟩ := h
  rwa [told.lookup_eq] at hdata

theorem IsFound.article {v : Json} {f : Found} (h : IsFound v f) :
    Given (IsSome IsArticle) none v.article? f.article := by
  obtain ⟨told, harticle⟩ := h
  rwa [told.lookup_eq] at harticle

end

end Json

namespace Wire

open Json (IsErrorEntry IsEnvelope IsSlot IsSlots IsListing IsFound)

section
variable {v : Json}

theorem read_errorEntry_iff (hv : v.WellFormed) {e : ErrorEntry} :
    Schema.errorEntry.read v = .ok e ↔ IsErrorEntry v e := by
  rw [Schema.read_record_iff rfl (by decide) hv]
  have hpath (w : Json) (_ : w.WellFormed) (vs : List Json) :
      (Schema.list .any).read w = .ok vs ↔ IsList Eq w vs :=
    read_list_iff fun u _ x => by simp [Schema.read]
  constructor
  · rintro ⟨es, told, h⟩
    obtain ⟨message, hmessage, h⟩ := (readEntries_text rfl rfl).1 h
    obtain ⟨path, hp, h⟩ := (readEntries_part (.list .any) told hv hpath nofun rfl rfl).1 h
    cases h
    exact .told told hmessage hp
  · rintro ⟨told, hmessage, hp⟩
    refine ⟨_, told, ?_⟩
    refine (readEntries_text rfl rfl).2 ⟨_, hmessage, ?_⟩
    exact (readEntries_part (.list .any) told hv hpath nofun rfl rfl).2 ⟨_, hp, rfl⟩

theorem read_slot_iff (hv : v.WellFormed) {s : Slot} :
    Schema.slot.read v = .ok s ↔ IsSlot v s := by
  rw [Schema.read_record_iff rfl (by decide) hv]
  have hdocument (w : Json) (hw : w.WellFormed) (d : Document) := read_document_iff hw (d := d)
  constructor
  · rintro ⟨es, told, h⟩
    obtain ⟨entity, he, h⟩ := (readEntries_some (s := .slot) .document
      (fun d s => { s with entity := d }) told hv hdocument nofun rfl (fun _ _ => rfl) rfl).1 h
    cases h
    exact .told told he
  · rintro ⟨told, he⟩
    refine ⟨_, told, ?_⟩
    exact (readEntries_some (s := .slot) .document (fun d s => { s with entity := d })
      told hv hdocument nofun rfl (fun _ _ => rfl) rfl).2 ⟨_, he, rfl⟩

theorem read_slots_iff (hv : v.WellFormed) {s : Slots} :
    Schema.slots.read v = .ok s ↔ IsSlots v s := by
  rw [Schema.read_record_iff rfl (by decide) hv]
  have hnodes (w : Json) (hw : w.WellFormed) (ss : List Slot) :
      (Schema.list .slot).read w = .ok ss ↔ IsList IsSlot w ss :=
    read_list_iff fun u hu s => read_slot_iff (hw.parts hu)
  constructor
  · rintro ⟨es, told, h⟩
    obtain ⟨nodes, hn, h⟩ := (readEntries_part (.list .slot) told hv hnodes nofun rfl rfl).1 h
    cases h
    exact .told told hn
  · rintro ⟨told, hn⟩
    exact ⟨_, told, (readEntries_part (.list .slot) told hv hnodes nofun rfl rfl).2 ⟨_, hn, rfl⟩⟩

theorem read_listing_iff (hv : v.WellFormed) {l : Listing} :
    Schema.listing.read v = .ok l ↔ IsListing v l := by
  rw [Schema.read_record_iff rfl (by decide) hv]
  have hslots (w : Json) (hw : w.WellFormed) (s : Slots) := read_slots_iff hw (s := s)
  constructor
  · rintro ⟨es, told, h⟩
    obtain ⟨slots, hs, h⟩ := (readEntries_part .slots told hv hslots nofun rfl rfl).1 h
    cases h
    exact .told told hs
  · rintro ⟨told, hs⟩
    exact ⟨_, told, (readEntries_part .slots told hv hslots nofun rfl rfl).2 ⟨_, hs, rfl⟩⟩

theorem read_found_iff (hv : v.WellFormed) {f : Found} :
    Schema.found.read v = .ok f ↔ IsFound v f := by
  rw [Schema.read_record_iff rfl (by decide) hv]
  have harticle (w : Json) (hw : w.WellFormed) (a : Article) := read_article_iff hw (a := a)
  constructor
  · rintro ⟨es, told, h⟩
    obtain ⟨article, ha, h⟩ := (readEntries_some (s := .found) .article
      (fun a f => { f with article := a }) told hv harticle nofun rfl (fun _ _ => rfl) rfl).1 h
    cases h
    exact .told told ha
  · rintro ⟨told, ha⟩
    refine ⟨_, told, ?_⟩
    exact (readEntries_some (s := .found) .article (fun a f => { f with article := a })
      told hv harticle nofun rfl (fun _ _ => rfl) rfl).2 ⟨_, ha, rfl⟩

/-- An answer as an array tells at least of its data. -/
theorem checkLength_envelope {data : Schema} {es : List (String × Json)}
    (told : v.Tells ["data", "errors"] es) :
    (∀ vs, v = .arr vs → (Record.envelope data).checkLength vs.length = .ok ()) ↔ v ≠ .arr [] := by
  constructor
  · rintro h rfl
    cases h [] rfl
  · rintro hne vs rfl
    cases told with
    | array hle =>
      match vs, hne, hle with
      | [_], _, _ => rfl
      | [_, _], _, _ => rfl

/-- An answer is read from exactly the values that conform, given what its data are read from. -/
theorem ofJson_iff {data : Schema} {form : Json → data.Carrier → Prop} (hany : data ≠ .any)
    (hform : ∀ w : Json, w.WellFormed → ∀ x, data.read w = .ok x ↔ form w x) (hv : v.WellFormed)
    {e : Envelope data.Carrier} : Envelope.ofJson data v = .ok e ↔ IsEnvelope form v e := by
  have hread : Envelope.ofJson data v = .ok e ↔ (Schema.envelope data).read v = .ok e := by
    rw [Envelope.ofJson]
    cases (Schema.envelope data).read v <;> simp [Except.mapError]
  have hfree (f : Field (Envelope data.Carrier)) (hf : f ∈ (Record.envelope data).fields) :
      f.absence ≠ .never := by
    have hcases : f.absence = .named ∨ f.absence = .always := by
      rcases List.mem_pair.1 hf with rfl | rfl
      · exact .inl rfl
      · exact .inr rfl
    rcases hcases with h | h <;> simp [h]
  have herrors (w : Json) (hw : w.WellFormed) (es : List ErrorEntry) :
      (Schema.list .errorEntry).read w = .ok es ↔ IsList IsErrorEntry w es :=
    read_list_iff fun u hu e => read_errorEntry_iff (hw.parts hu)
  rw [hread, Schema.read_told_iff (s := .envelope data) rfl hfree hv]
  constructor
  · rintro ⟨es, told, hlength, h⟩
    obtain ⟨x, hx, h⟩ := (readEntries_some (s := .envelope data) data
      (fun x e => { e with data := x }) told hv hform hany rfl (fun _ _ => rfl) rfl).1 h
    obtain ⟨errors, he, h⟩ :=
      (readEntries_part (.list .errorEntry) told hv herrors nofun rfl rfl).1 h
    cases h
    exact .told told ((checkLength_envelope told).1 hlength) hx he
  · rintro ⟨told, hne, hx, he⟩
    refine ⟨_, told, (checkLength_envelope told).2 hne, ?_⟩
    refine (readEntries_some (s := .envelope data) data (fun x e => { e with data := x })
      told hv hform hany rfl (fun _ _ => rfl) rfl).2 ⟨_, hx, ?_⟩
    exact (readEntries_part (.list .errorEntry) told hv herrors nofun rfl rfl).2 ⟨_, he, rfl⟩

end
end Wire
end Gazette
