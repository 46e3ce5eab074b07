import Mathlib.Data.List.Sort
import Gazette.Proofs.Tree.Canonical
import Gazette.Proofs.Wire.ReadLaws

/-! # Objects read by their keys

An object with ascending keys is determined by what stands under each key, and a record reads of it
only what stands under the keys of its fields. -/
namespace Gazette
namespace Json

variable {α : Type} {es es' : List (String × α)} {keys : List String} {key : String} {x : α}

theorem Ascending.nodup_keys (h : Ascending es) : (es.map Prod.fst).Nodup :=
  List.pairwise_map.2 (h.imp fun hlt => String.ne_of_lt hlt)

theorem lookup_iff (h : (es.map Prod.fst).Nodup) : es.lookup key = some x ↔ (key, x) ∈ es := by
  refine ⟨mem_of_lookup, ?_⟩
  intro hx
  induction es with
  | nil => cases hx
  | cons e es ih =>
    obtain ⟨hfirst, hrest⟩ := List.nodup_cons.1 h
    rw [List.lookup_cons]
    rcases List.mem_cons.1 hx with rfl | hx
    · simp
    · have hne : key ≠ e.1 := fun heq => hfirst (heq ▸ List.mem_map_of_mem hx)
      rw [beq_eq_false_iff_ne.2 hne]
      exact ih hrest hx

theorem Ascending.ext (h : Ascending es) (h' : Ascending es') (hmem : ∀ e, e ∈ es ↔ e ∈ es') :
    es = es' := by
  have irrefl : Std.Irrefl fun a b : String × α => a.1 < b.1 := ⟨fun a => String.lt_irrefl a.1⟩
  have antisymm : Std.Antisymm fun a b : String × α => a.1 < b.1 :=
    ⟨fun _ _ hab hba => absurd hba (String.lt_asymm hab)⟩
  exact List.Pairwise.eq_of_mem_iff h h' hmem

/-- What stands under the given keys, with its keys. -/
def under (keys : List String) (es : List (String × α)) : List (String × α) :=
  keys.filterMap fun key => (es.lookup key).map (key, ·)

theorem under_of_none (h : es.lookup key = none) : under (key :: keys) es = under keys es := by
  rw [under, List.filterMap_cons, h]
  rfl

theorem under_of_some (h : es.lookup key = some x) :
    under (key :: keys) es = (key, x) :: under keys es := by
  rw [under, List.filterMap_cons, h]
  rfl

theorem mem_under {e : String × α} :
    e ∈ under keys es ↔ e.1 ∈ keys ∧ es.lookup e.1 = some e.2 := by
  rw [under, List.mem_filterMap]
  constructor
  · rintro ⟨key, hkey, he⟩
    obtain ⟨x, hx, rfl⟩ := Option.map_eq_some_iff.1 he
    exact ⟨hkey, hx⟩
  · rintro ⟨hkey, hx⟩
    exact ⟨e.1, hkey, by rw [hx]; rfl⟩

theorem ascending_under (h : keys.Pairwise (· < ·)) : Ascending (under keys es) := by
  refine h.filterMap _ ?_
  intro key key' hlt e he e' he'
  obtain ⟨-, -, rfl⟩ := Option.map_eq_some_iff.1 he
  obtain ⟨-, -, rfl⟩ := Option.map_eq_some_iff.1 he'
  exact hlt

theorem Ascending.filter_keys (h : Ascending es) (hk : keys.Pairwise (· < ·)) :
    es.filter (fun e => e.1 ∈ keys) = under keys es := by
  refine Ascending.ext (h.filter _) (ascending_under hk) ?_
  intro e
  rw [List.mem_filter, mem_under, lookup_iff h.nodup_keys, and_comm, decide_eq_true_iff]

/-- Nothing is sent, or `null`. -/
def Absent (v : Option Json) : Prop := v = none ∨ v = some .null

end Json

namespace Wire

def Record.keys {ρ : Type} (r : Record ρ) : List String := r.fields.map Field.key

theorem Record.field?_eq_none {ρ : Type} {r : Record ρ} {key : String} (h : key ∉ r.keys) :
    r.field? key = none := by
  rw [field?, List.find?_eq_none]
  intro f hf hkey
  have heq : f.key = key := by simpa using hkey
  exact h (heq ▸ List.mem_map_of_mem hf)

variable {s : Schema} {r : Record s.Carrier} {es : List (String × Json)} {x : s.Carrier}
  {f : Field s.Carrier} {key : String} {keys : List String} {v : Json}

/-- Entries that name no field are passed over. -/
theorem readEntries_filter :
    readEntries s r (es.filter fun e => e.1 ∈ r.keys) x = readEntries s r es x := by
  induction es generalizing x with
  | nil => rfl
  | cons e es ih =>
    by_cases hkey : e.1 ∈ r.keys
    · rw [List.filter_cons_of_pos (by simpa using hkey), readEntries, readEntries]
      simp only [ih]
    · rw [List.filter_cons_of_neg (by simpa using hkey), ih, readEntries,
        Record.field?_eq_none hkey]

/-- An object is read through what stands under the keys of the fields. -/
theorem readEntries_under (hk : r.keys.Pairwise (· < ·)) (h : Json.Ascending es) :
    readEntries s r es x = readEntries s r (Json.under r.keys es) x := by
  rw [← h.filter_keys hk, readEntries_filter]

theorem Record.checkKeys_of_free {ρ : Type} {r : Record ρ} (h : ∀ f ∈ r.fields, f.absence ≠ .never)
    (keys : List String) : r.checkKeys keys = .ok () := by
  have hnone : r.fields.find? (fun f => f.absence = .never ∧ f.key ∉ keys) = none := by
    rw [List.find?_eq_none]
    intro f hf
    simp [h f hf]
  rw [checkKeys, hnone]

theorem Schema.read_obj_under (hr : s.record? = some r) (hk : r.keys.Pairwise (· < ·))
    (hfree : ∀ f ∈ r.fields, f.absence ≠ .never) (h : Json.Ascending es) :
    s.read (.obj es) = readEntries s r (Json.under r.keys es) r.start := by
  rw [read_obj hr, readEntries_under hk h, Record.checkKeys_of_free hfree]
  cases readEntries s r (Json.under r.keys es) r.start <;> rfl

theorem readEntries_absent (hf : r.field? key = some f) (hn : f.nullable = true)
    (h : Json.Absent (es.lookup key)) :
    readEntries s r (Json.under (key :: keys) es) x = readEntries s r (Json.under keys es) x := by
  rcases h with h | h
  · rw [Json.under_of_none h]
  · have hskip : f.skips .null = true := hn
    rw [Json.under_of_some h, readEntries, hf]
    simp [hskip]

theorem readEntries_present {y : f.schema.Carrier} (hf : r.field? key = some f)
    (h : es.lookup key = some v) (hs : f.skips v = false) (hv : f.schema.read v = .ok y) :
    readEntries s r (Json.under (key :: keys) es) x =
      readEntries s r (Json.under keys es) (f.put y x) := by
  rw [Json.under_of_some h, readEntries_field hf hs hv]

/-- The first value that has not the form of its field ends the reading. -/
theorem readEntries_misfit {m : Mismatch} (hf : r.field? key = some f)
    (h : es.lookup key = some v) (hs : f.skips v = false) (hv : f.schema.read v = .error m) :
    readEntries s r (Json.under (key :: keys) es) x = .error m := by
  rw [Json.under_of_some h, readEntries, hf]
  simp [hs, hv]

end Wire
end Gazette
