import Mathlib.Data.List.Nodup
import Mathlib.Data.List.Pairwise
import Gazette.Proofs.Wire.Entries

/-! # Records entry by entry

What an entry does to a record does not depend on the record, and entries of different fields do it
side by side. So the order of the entries is of no account, and an array is read like an object
whose keys are those of the fields in their order. -/
namespace Gazette
namespace Json

variable {α : Type} {es : List (String × α)} {keys : List String} {key : String} {x : α}

theorem nodup_under (h : keys.Nodup) : (under keys es).Nodup := by
  refine List.Nodup.filterMap ?_ h
  intro key key' e he he'
  obtain ⟨x, -, rfl⟩ := Option.map_eq_some_iff.1 he
  obtain ⟨y, -, heq⟩ := Option.map_eq_some_iff.1 he'
  exact congrArg Prod.fst heq.symm

/-- The entries with some keys, put into the order of these. -/
theorem filter_perm_under (h : (es.map Prod.fst).Nodup) (hk : keys.Nodup) :
    (es.filter fun e => e.1 ∈ keys).Perm (under keys es) := by
  refine (List.perm_ext_iff_of_nodup (h.of_map.filter _) (nodup_under hk)).2 ?_
  intro e
  rw [List.mem_filter, mem_under, lookup_iff h, and_comm, decide_eq_true_iff]

end Json

namespace Wire

/-- The fields of a record have keys of their own, and putting a value into a field leaves the others
as they are. -/
structure Record.Lawful {ρ : Type} (r : Record ρ) : Prop where
  nodup_keys : r.keys.Nodup
  put_comm : r.fields.Pairwise fun f g => ∀ y z x, f.put y (g.put z x) = g.put z (f.put y x)

theorem Schema.nodup_keys {s : Schema} {r : Record s.Carrier} (h : s.record? = some r) :
    r.keys.Nodup := by
  cases s with
  | envelope data =>
    cases h
    change ["data", "errors"].Nodup
    decide
  | _ => cases h <;> decide

theorem Schema.put_comm {s : Schema} {r : Record s.Carrier} (h : s.record? = some r) :
    r.fields.Pairwise fun f g => ∀ y z x, f.put y (g.put z x) = g.put z (f.put y x) := by
  cases s <;> cases h <;>
    simp only [Record.node, Record.content, Record.article, Record.reply, Record.document,
      Record.info, Record.crop, Record.audioSource, Record.format, Record.formatInfo,
      Record.config, Record.errorEntry, Record.envelope, Record.listing, Record.slots,
      Record.slot, Record.found, List.pairwise_cons, List.forall_mem_cons, List.not_mem_nil,
      false_imp_iff, implies_true, List.Pairwise.nil, and_true]

theorem Schema.lawful {s : Schema} {r : Record s.Carrier} (h : s.record? = some r) : r.Lawful :=
  ⟨nodup_keys h, put_comm h⟩

namespace Record

variable {ρ : Type} {r : Record ρ} {f g : Field ρ} {key : String}

theorem key_of_field? (hf : r.field? key = some f) : f.key = key := by
  simpa using List.find?_some hf

theorem Lawful.comm (hr : r.Lawful) (hf : f ∈ r.fields) (hg : g ∈ r.fields) (hne : f.key ≠ g.key)
    (y : f.schema.Carrier) (z : g.schema.Carrier) (x : ρ) :
    f.put y (g.put z x) = g.put z (f.put y x) := by
  have symm : Std.Symm fun f g : Field ρ => ∀ y z x, f.put y (g.put z x) = g.put z (f.put y x) :=
    ⟨fun _ _ h y z x => (h z y x).symm⟩
  have hfg : f ≠ g := fun heq => hne (congrArg Field.key heq)
  exact hr.put_comm.forall hf hg hfg y z x

theorem Lawful.field?_of_mem (hr : r.Lawful) (hf : f ∈ r.fields) : r.field? f.key = some f := by
  have hkeys : (r.fields.map Field.key).Nodup := hr.nodup_keys
  unfold field?
  generalize r.fields = fields at hkeys hf
  induction fields with
  | nil => cases hf
  | cons g fs ih =>
    obtain ⟨hfirst, hrest⟩ := List.nodup_cons.1 hkeys
    rcases List.mem_cons.1 hf with rfl | hf
    · simp
    · have hne : g.key ≠ f.key := fun heq => hfirst (heq ▸ List.mem_map_of_mem hf)
      rw [List.find?_cons_of_neg (by simpa using hne)]
      exact ih hrest hf

/-- What an entry does to a record, unless its value is a misfit. -/
def effect (r : Record ρ) (e : String × Json) : Except Mismatch (ρ → ρ) :=
  match r.field? e.1 with
  | none => .ok id
  | some f => if f.skips e.2 then .ok id else (f.schema.read e.2).map f.put

theorem effect_cases {e : String × Json} {act : ρ → ρ} (h : r.effect e = .ok act) :
    act = id ∨ ∃ f ∈ r.fields, f.key = e.1 ∧ ∃ y, act = f.put y := by
  unfold effect at h
  cases hf : r.field? e.1 with
  | none =>
    rw [hf] at h
    cases h
    exact .inl rfl
  | some f =>
    simp only [hf] at h
    split at h
    · cases h
      exact .inl rfl
    · cases hy : f.schema.read e.2 with
      | error m => rw [hy] at h; cases h
      | ok y =>
        rw [hy] at h
        cases h
        exact .inr ⟨f, List.mem_of_find?_eq_some hf, key_of_field? hf, y, rfl⟩

theorem Lawful.effect_comm (hr : r.Lawful) {e e' : String × Json} (hne : e.1 ≠ e'.1)
    {act act' : ρ → ρ} (h : r.effect e = .ok act) (h' : r.effect e' = .ok act') (x : ρ) :
    act (act' x) = act' (act x) := by
  rcases effect_cases h with rfl | ⟨f, hf, hkey, y, rfl⟩
  · rfl
  rcases effect_cases h' with rfl | ⟨g, hg, hkey', z, rfl⟩
  · rfl
  exact hr.comm hf hg (by rwa [hkey, hkey']) y z x

end Record

variable {s : Schema} {r : Record s.Carrier} {es es' : List (String × Json)} {x z : s.Carrier}

theorem readEntries_cons (e : String × Json) (es : List (String × Json)) (x : s.Carrier) :
    readEntries s r (e :: es) x = (do
      let act ← r.effect e
      readEntries s r es (act x)) := by
  rw [readEntries, Record.effect]
  cases r.field? e.1 with
  | none => rfl
  | some f =>
    simp only
    split
    · rfl
    · cases f.schema.read e.2 <;> rfl

theorem readEntries_cons_iff {e : String × Json} : readEntries s r (e :: es) x = .ok z ↔
    ∃ act, r.effect e = .ok act ∧ readEntries s r es (act x) = .ok z := by
  rw [readEntries_cons, bind_ok_iff]

/-- The order of entries with different keys is of no account. -/
theorem readEntries_perm (hr : r.Lawful) (h : es.Perm es') (hk : (es.map Prod.fst).Nodup) :
    readEntries s r es x = .ok z ↔ readEntries s r es' x = .ok z := by
  induction h generalizing x with
  | nil => rfl
  | cons e _ ih =>
    simp only [readEntries_cons_iff, ih (List.nodup_cons.1 hk).2]
  | swap e e' es =>
    have hne : e'.1 ≠ e.1 := fun heq => (List.nodup_cons.1 hk).1 (by simp [heq])
    have forward {a b : String × Json} (hab : a.1 ≠ b.1)
        (h : readEntries s r (a :: b :: es) x = .ok z) :
        readEntries s r (b :: a :: es) x = .ok z := by
      obtain ⟨act, ha, h⟩ := readEntries_cons_iff.1 h
      obtain ⟨act', hb, h⟩ := readEntries_cons_iff.1 h
      rw [← hr.effect_comm hab ha hb] at h
      exact readEntries_cons_iff.2 ⟨act', hb, readEntries_cons_iff.2 ⟨act, ha, h⟩⟩
    exact ⟨forward hne, forward hne.symm⟩
  | trans h _ ih ih' =>
    have hk' := ((h.map Prod.fst).nodup_iff).1 hk
    exact (ih hk).trans (ih' hk')

/-- An object is read through what stands under the keys of the fields, in the order of these. -/
theorem readEntries_fields (hr : r.Lawful) (hk : (es.map Prod.fst).Nodup) :
    readEntries s r es x = .ok z ↔ readEntries s r (Json.under r.keys es) x = .ok z := by
  have hfilter : ((es.filter fun e => e.1 ∈ r.keys).map Prod.fst).Nodup :=
    hk.sublist (List.filter_sublist.map _)
  rw [← readEntries_filter, readEntries_perm hr (Json.filter_perm_under hk hr.nodup_keys) hfilter]

/-- An array is read like an object with the keys of the fields. -/
theorem readFields_eq (hr : r.Lawful) (vs : List Json) (x : s.Carrier) :
    readFields s r.fields vs x = readEntries s r (r.keys.zip vs) x := by
  suffices ∀ fs : List (Field s.Carrier), (∀ f ∈ fs, r.field? f.key = some f) →
      readFields s fs vs x = readEntries s r ((fs.map Field.key).zip vs) x from
    this r.fields fun f hf => hr.field?_of_mem hf
  induction vs generalizing x with
  | nil => intro fs _; cases fs <;> rfl
  | cons v vs ih =>
    intro fs hfs
    cases fs with
    | nil => rfl
    | cons f fs =>
      obtain ⟨hf, hfs⟩ := List.forall_mem_cons.1 hfs
      rw [List.map_cons, List.zip_cons_cons, readFields, readEntries, hf]
      simp only [ih _ fs hfs]

end Wire
end Gazette
