import Gazette.Wire.Read

/-! # What reading a value does, step by step

Reading a record goes through the entries or items one after the other. What each of them keeps, the
whole reading keeps. -/
namespace Gazette

def Json.parts : Json → List Json
  | .arr vs => vs
  | .obj es => es.map Prod.snd
  | _ => []

/-- Induction over values, each after its parts. -/
theorem Json.walk {P : Json → Prop} (step : ∀ v, (∀ w ∈ v.parts, P w) → P v) (v : Json) : P v := by
  have leaf (v : Json) (h : v.parts = []) : P v := step v (by simp [h])
  refine Json.rec (motive_1 := P) (motive_2 := fun vs => ∀ v ∈ vs, P v)
    (motive_3 := fun es => ∀ v ∈ es.map Prod.snd, P v) (motive_4 := fun e => P e.2)
    (leaf .null rfl) (fun b => leaf (.bool b) rfl) (fun n => leaf (.int n) rfl)
    (fun x => leaf (.float x) rfl) (fun s => leaf (.str s) rfl)
    (fun vs h => step (.arr vs) h) (fun es h => step (.obj es) h) ?nil ?cons ?nil' ?cons' ?entry v
  case nil => simp
  case cons => exact fun v vs hv hvs => List.forall_mem_cons.2 ⟨hv, hvs⟩
  case nil' => simp
  case cons' => exact fun e es he hes => List.forall_mem_cons.2 ⟨he, hes⟩
  case entry => exact fun _ _ h => h

namespace Wire

@[simp] theorem ok_bind {ε α β : Type} (x : α) (f : α → Except ε β) :
    (Except.ok x >>= f) = f x := rfl

@[simp] theorem error_bind {ε α β : Type} (e : ε) (f : α → Except ε β) :
    (Except.error e >>= f) = .error e := rfl

theorem bind_ok_iff {ε α β : Type} {a : Except ε α} {f : α → Except ε β} {y : β} :
    a >>= f = .ok y ↔ ∃ x, a = .ok x ∧ f x = .ok y := by
  cases a <;> simp

theorem Field.skips_of_ne_null {ρ : Type} {f : Field ρ} {v : Json} (h : v ≠ .null) :
    f.skips v = false := by
  cases v with
  | null => exact absurd rfl h
  | bool _ | int _ | float _ | str _ | arr _ | obj _ => rfl

theorem Schema.read_obj {s : Schema} {r : Record s.Carrier} (h : s.record? = some r)
    (es : List (String × Json)) :
    s.read (.obj es) = (do
      let x ← readEntries s r es r.start
      r.checkKeys (es.map Prod.fst)
      .ok x) := by
  cases s <;> cases h <;> rfl

theorem Schema.read_arr {s : Schema} {r : Record s.Carrier} (h : s.record? = some r)
    (vs : List Json) :
    s.read (.arr vs) = (do
      let x ← readFields s r.fields vs r.start
      r.checkLength vs.length
      .ok x) := by
  cases s <;> cases h <;> rfl

/-- A record comes from an object or from an array. -/
theorem Schema.read_record_cases {s : Schema} {r : Record s.Carrier} (h : s.record? = some r)
    {v : Json} {x : s.Carrier} (hv : s.read v = .ok x) :
    (∃ es, v = .obj es ∧ readEntries s r es r.start = .ok x) ∨
      ∃ vs, v = .arr vs ∧ readFields s r.fields vs r.start = .ok x := by
  cases v with
  | obj es =>
    rw [read_obj h, bind_ok_iff] at hv
    obtain ⟨y, hy, hv⟩ := hv
    obtain ⟨-, -, hxy⟩ := bind_ok_iff.1 hv
    cases hxy
    exact .inl ⟨es, rfl, hy⟩
  | arr vs =>
    rw [read_arr h, bind_ok_iff] at hv
    obtain ⟨y, hy, hv⟩ := hv
    obtain ⟨-, -, hxy⟩ := bind_ok_iff.1 hv
    cases hxy
    exact .inr ⟨vs, rfl, hy⟩
  | null | bool _ | int _ | float _ | str _ => cases s <;> cases h <;> cases hv

theorem Schema.read_list_cases {item : Schema} {v : Json} {xs : List item.Carrier}
    (hv : (Schema.list item).read v = .ok xs) : ∃ vs, v = .arr vs ∧ readItems item vs = .ok xs := by
  cases v with
  | arr vs => exact ⟨vs, rfl, hv⟩
  | null | bool _ | int _ | float _ | str _ | obj _ => cases hv

theorem readItems_cons_cases {item : Schema} {v : Json} {vs : List Json} {xs : List item.Carrier}
    (h : readItems item (v :: vs) = .ok xs) :
    ∃ y ys, item.read v = .ok y ∧ readItems item vs = .ok ys ∧ xs = y :: ys := by
  rw [readItems, bind_ok_iff] at h
  obtain ⟨y, hy, h⟩ := h
  obtain ⟨ys, hys, h⟩ := bind_ok_iff.1 h
  cases h
  exact ⟨y, ys, hy, hys, rfl⟩

theorem readItems_map {item : Schema} {α : Type} {encode : α → Json} {value : α → item.Carrier}
    {xs : List α} (h : ∀ x ∈ xs, item.read (encode x) = .ok (value x)) :
    readItems item (xs.map encode) = .ok (xs.map value) := by
  induction xs with
  | nil => rfl
  | cons x xs ih =>
    obtain ⟨hx, hxs⟩ := List.forall_mem_cons.1 h
    rw [List.map_cons, readItems, hx, ih hxs]
    rfl

section
variable {s : Schema} {r : Record s.Carrier} {key : String} {v : Json}
  {es : List (String × Json)} {vs : List Json} {f : Field s.Carrier} {fs : List (Field s.Carrier)}
  {x z : s.Carrier}

theorem Record.mem_of_field? (hf : r.field? key = some f) : f ∈ r.fields :=
  List.mem_of_find?_eq_some hf

theorem readEntries_field {y : f.schema.Carrier} (hf : r.field? key = some f)
    (hn : f.skips v = false) (hv : f.schema.read v = .ok y) :
    readEntries s r ((key, v) :: es) x = readEntries s r es (f.put y x) := by
  rw [readEntries, hf]
  simp [hn, hv]

theorem Schema.read_single {y : f.schema.Carrier} (hr : s.record? = some r)
    (hf : r.field? key = some f) (hn : f.skips v = false) (hv : f.schema.read v = .ok y)
    (hkeys : r.checkKeys [key] = .ok ()) (hz : f.put y r.start = z) :
    s.read (.obj [(key, v)]) = .ok z := by
  rw [read_obj hr, readEntries_field hf hn hv, readEntries, hz]
  simp [hkeys]

/-- What the entries keep one by one, they keep together. -/
theorem readEntries_keeps {I : s.Carrier → Prop}
    (step : ∀ e ∈ es, ∀ f ∈ r.fields, ∀ y x, f.schema.read e.2 = .ok y → I x → I (f.put y x))
    (h : readEntries s r es x = .ok z) (hx : I x) : I z := by
  induction es generalizing x with
  | nil => cases h; exact hx
  | cons e es ih =>
    have rest (e' : String × Json) (he : e' ∈ es) := step e' (List.mem_cons_of_mem e he)
    rw [readEntries] at h
    cases hf : r.field? e.1 with
    | none =>
      rw [hf] at h
      exact ih rest h hx
    | some f =>
      simp only [hf] at h
      split at h
      · exact ih rest h hx
      · obtain ⟨y, hy, h⟩ := bind_ok_iff.1 h
        have hput := step e List.mem_cons_self f (Record.mem_of_field? hf) y x hy hx
        exact ih rest h hput

theorem readFields_keeps {I : s.Carrier → Prop}
    (step : ∀ v ∈ vs, ∀ f ∈ fs, ∀ y x, f.schema.read v = .ok y → I x → I (f.put y x))
    (h : readFields s fs vs x = .ok z) (hx : I x) : I z := by
  induction vs generalizing fs x with
  | nil => cases fs <;> cases h <;> exact hx
  | cons v vs ih =>
    cases fs with
    | nil => cases h; exact hx
    | cons f fs =>
      have rest (v' : Json) (hv : v' ∈ vs) (f' : Field s.Carrier) (hf : f' ∈ fs) :=
        step v' (List.mem_cons_of_mem v hv) f' (List.mem_cons_of_mem f hf)
      rw [readFields] at h
      split at h
      · exact ih rest h hx
      · obtain ⟨y, hy, h⟩ := bind_ok_iff.1 h
        exact ih rest h (step v List.mem_cons_self f List.mem_cons_self y x hy hx)

end

end Wire
end Gazette
