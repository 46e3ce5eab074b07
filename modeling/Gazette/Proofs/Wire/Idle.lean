import Mathlib.Logic.Relation
import Gazette.Proofs.Wire.Entries

/-! # Entries that say nothing

An entry of an object says nothing if its key belongs to no field, or if its value is `null`. As many
of them as one likes can come or go, at any depth: what is read stays the same, and so does the fault
if there is one. -/
namespace Gazette
namespace Wire

/-- Whether an entry leaves a record as it is, whatever else the record is told. -/
def Record.Idle {ρ : Type} (r : Record ρ) (key : String) (v : Json) : Prop :=
  key ∉ r.keys ∨ v = .null

/-- Two values, the second of which has one idle entry more, in an object that is read as a record. -/
inductive Schema.Gains : Schema → Json → Json → Prop
  | here {s : Schema} {r : Record s.Carrier} {key : String} {v : Json}
      (before after : List (String × Json)) (hr : s.record? = some r) (hv : r.Idle key v) :
      s.Gains (.obj (before ++ after)) (.obj (before ++ (key, v) :: after))
  | entry {s : Schema} {r : Record s.Carrier} {f : Field s.Carrier} {key : String} {v w : Json}
      (before after : List (String × Json)) (hr : s.record? = some r)
      (hf : r.field? key = some f) (h : f.schema.Gains v w) :
      s.Gains (.obj (before ++ (key, v) :: after)) (.obj (before ++ (key, w) :: after))
  | place {s : Schema} {r : Record s.Carrier} {f : Field s.Carrier} {v w : Json}
      (before after : List Json) (hr : s.record? = some r)
      (hf : r.fields[before.length]? = some f) (h : f.schema.Gains v w) :
      s.Gains (.arr (before ++ v :: after)) (.arr (before ++ w :: after))
  | item {item : Schema} {v w : Json} (before after : List Json) (h : item.Gains v w) :
      (Schema.list item).Gains (.arr (before ++ v :: after)) (.arr (before ++ w :: after))

/-- Two values that differ in idle entries only. -/
def Schema.Equivalent (s : Schema) : Json → Json → Prop := Relation.EqvGen s.Gains

/-- Forms in which every field may be `null`. -/
def Schema.Lenient : Schema → Prop
  | .config => False
  | .list item => item.Lenient
  | .envelope data => data.Lenient
  | _ => True

theorem Schema.Lenient.field {s : Schema} {r : Record s.Carrier} {f : Field s.Carrier}
    (h : s.Lenient) (hr : s.record? = some r) (hf : f ∈ r.fields) :
    f.nullable = true ∧ f.absence ≠ .never ∧ f.schema.Lenient := by
  cases s with
  | config => exact h.elim
  | envelope data =>
    cases hr
    simp only [Record.envelope, List.mem_cons, List.not_mem_nil, or_false] at hf
    rcases hf with rfl | rfl
    · exact ⟨rfl, by simp, h⟩
    · exact ⟨rfl, by simp, trivial⟩
  | any | text | flag | integer _ | list _ | kind | identifier => cases hr
  | _ =>
    cases hr
    revert f
    simp [Lenient, Record.node, Record.content, Record.article, Record.reply, Record.document,
      Record.info, Record.crop, Record.audioSource, Record.format, Record.formatInfo,
      Record.errorEntry, Record.listing, Record.slots, Record.slot, Record.found]

theorem Schema.Gains.ne_null {s : Schema} {v w : Json} (h : s.Gains v w) :
    v ≠ .null ∧ w ≠ .null := by
  cases h <;> simp

section
variable {s : Schema} {r : Record s.Carrier} {f : Field s.Carrier} {key : String} {v w : Json}
  {before after : List (String × Json)} {x : s.Carrier}

/-- Entries read alike do so behind others, too. -/
theorem readEntries_append {es es' : List (String × Json)}
    (h : ∀ x, readEntries s r es x = readEntries s r es' x) :
    readEntries s r (before ++ es) x = readEntries s r (before ++ es') x := by
  induction before generalizing x with
  | nil => exact h x
  | cons e before ih => simp only [List.cons_append, readEntries, ih]

theorem readEntries_idle (hs : s.Lenient) (hr : s.record? = some r) (hv : r.Idle key v) :
    readEntries s r (before ++ (key, v) :: after) x = readEntries s r (before ++ after) x := by
  apply readEntries_append
  intro x
  rw [readEntries]
  cases hf : r.field? key with
  | none => rfl
  | some f =>
    rcases hv with hkey | rfl
    · rw [Record.field?_eq_none hkey] at hf
      cases hf
    · have hskip : f.skips .null = true := (hs.field hr (Record.mem_of_field? hf)).1
      simp [hskip]

theorem readEntries_entry (hf : r.field? key = some f) (h : f.schema.Gains v w)
    (hread : f.schema.read v = f.schema.read w) :
    readEntries s r (before ++ (key, v) :: after) x =
      readEntries s r (before ++ (key, w) :: after) x := by
  apply readEntries_append
  intro x
  rw [readEntries, readEntries, hf]
  simp only [Field.skips_of_ne_null h.ne_null.1, Field.skips_of_ne_null h.ne_null.2, hread]

theorem readFields_place {fs : List (Field s.Carrier)} {before after : List Json}
    (hf : fs[before.length]? = some f) (h : f.schema.Gains v w)
    (hread : f.schema.read v = f.schema.read w) :
    readFields s fs (before ++ v :: after) x = readFields s fs (before ++ w :: after) x := by
  induction before generalizing fs x with
  | nil =>
    cases fs with
    | nil => rfl
    | cons g fs =>
      cases hf
      simp only [List.nil_append, readFields, Field.skips_of_ne_null h.ne_null.1,
        Field.skips_of_ne_null h.ne_null.2, hread]
  | cons u before ih =>
    cases fs with
    | nil => rfl
    | cons g fs => simp only [List.cons_append, readFields, ih hf]

theorem readItems_item {item : Schema} {before after : List Json}
    (hread : item.read v = item.read w) :
    readItems item (before ++ v :: after) = readItems item (before ++ w :: after) := by
  induction before with
  | nil => simp only [List.nil_append, readItems, hread]
  | cons u before ih => simp only [List.cons_append, readItems, ih]

end

theorem Record.checkKeys_lenient {s : Schema} {r : Record s.Carrier} (hs : s.Lenient)
    (hr : s.record? = some r) (keys : List String) : r.checkKeys keys = .ok () :=
  checkKeys_of_free (fun _ hf => (hs.field hr hf).2.1) keys

/-- One idle entry more changes nothing. -/
theorem read_gains {s : Schema} {v w : Json} (hs : s.Lenient) (h : s.Gains v w) :
    s.read v = s.read w := by
  induction h with
  | here before after hr hv =>
    rw [Schema.read_obj hr, Schema.read_obj hr, readEntries_idle hs hr hv]
    simp only [Record.checkKeys_lenient hs hr]
  | entry before after hr hf h ih =>
    have hread := ih (hs.field hr (Record.mem_of_field? hf)).2.2
    rw [Schema.read_obj hr, Schema.read_obj hr, readEntries_entry hf h hread]
    simp only [Record.checkKeys_lenient hs hr]
  | place before after hr hf h ih =>
    have hread := ih (hs.field hr (List.mem_of_getElem? hf)).2.2
    rw [Schema.read_arr hr, Schema.read_arr hr, readFields_place hf h hread]
    simp
  | item before after h ih => exact readItems_item (ih hs)

theorem read_equivalent {s : Schema} {v w : Json} (hs : s.Lenient) (h : s.Equivalent v w) :
    s.read v = s.read w := by
  induction h with
  | rel v w hvw => exact read_gains hs hvw
  | refl v => rfl
  | symm v w _ ih => exact ih.symm
  | trans u v w _ _ ih ih' => exact ih.trans ih'

/-- The forms of articles and documents and of their parts. -/
def Schema.published : List Schema :=
  [.node, .content, .article, .reply, .document, .info, .crop, .audioSource, .format, .formatInfo]

theorem Schema.lenient_of_published {s : Schema} (h : s ∈ published) : s.Lenient := by
  revert s
  simp [published, Lenient]

end Wire
end Gazette
