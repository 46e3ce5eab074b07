import Gazette.Proofs.Json.Drafts
import Gazette.Proofs.Text.Utf8

/-! # Whatever is read from a text is well formed

A whole number beyond 64 bits is read as a floating-point number or not at all, and entries are put
in order. -/
namespace Gazette.Json
open Gazette.Text

theorem Numeral.value?_int {m : Numeral} {n : Int} (h : m.value? = some (.int n)) :
    -0x8000000000000000 ≤ n ∧ n < 0x10000000000000000 := by
  have hfloat : m.float?.map Number.float ≠ some (.int n) := by cases m.float? <;> simp
  unfold value? at h
  simp only at h
  split at h
  · split at h
    · split at h
      · cases h
      · split at h
        · cases h
          omega
        · exact absurd h hfloat
    · split at h
      · rename_i hlt
        cases h
        simp only [UInt64.size] at hlt
        omega
      · exact absurd h hfloat
  · exact absurd h hfloat

namespace Draft

/-- A whole number fits 64 bits. -/
def FitsWord : Draft → Prop
  | .int n => -0x8000000000000000 ≤ n ∧ n < 0x10000000000000000
  | _ => True

def Bounded (d : Draft) : Prop := d.Throughout FitsWord

variable {d : Draft} {rest cs : List Char} {room fuel : Nat}

theorem bounded_word (h : d.Bounded) : (word rest d cs).1.Bounded := by
  unfold word
  split
  · exact h
  · exact trivial

theorem bounded_text : (text cs).1.Bounded := by
  unfold text
  split <;> exact trivial

theorem bounded_number : (number cs).1.Bounded := by
  unfold number
  split
  · exact trivial
  · split
    · rename_i h
      exact Numeral.value?_int h
    · exact trivial
    · exact trivial

theorem bounded_arr {flaw stop : Option Break} {ds : List Draft} (h : ∀ d ∈ ds, d.Bounded) :
    (Draft.arr flaw ds stop).Bounded := throughout_iff.2 ⟨trivial, h⟩

theorem bounded_obj {flaw stop : Option Break} {es : List (Except Break String × Draft)}
    (h : ∀ d ∈ es.map Prod.snd, d.Bounded) : (Draft.obj flaw es stop).Bounded :=
  throughout_iff.2 ⟨trivial, h⟩

theorem bounded_value_step (hitems : ∀ room cs, ∀ d ∈ (items room fuel cs).1, d.Bounded)
    (hentries : ∀ room cs, ∀ d ∈ (entries room fuel cs).1.map Prod.snd, d.Bounded) :
    (value room (fuel + 1) cs).1.Bounded := by
  rw [value]
  split
  · exact trivial
  · exact bounded_word trivial
  · exact bounded_word trivial
  · exact bounded_word trivial
  · exact bounded_text
  · split
    · exact bounded_arr nofun
    · exact bounded_arr nofun
    · exact bounded_arr (hitems _ _)
  · split
    · exact bounded_obj nofun
    · exact bounded_obj nofun
    · exact bounded_obj (hentries _ _)
  · split
    · exact bounded_number
    · exact trivial

theorem bounded_items_step (hvalue : ∀ room cs, (value room fuel cs).1.Bounded)
    (hitems : ∀ room cs, ∀ d ∈ (items room fuel cs).1, d.Bounded) :
    ∀ d ∈ (items room (fuel + 1) cs).1, d.Bounded := by
  rw [items]
  have hfirst := hvalue room cs
  split
  · rename_i h
    rw [h] at hfirst
    simpa using hfirst
  · rename_i h
    rw [h] at hfirst
    split
    · simpa using hfirst
    · split
      · simpa using hfirst
      · simpa using hfirst
      · exact List.forall_mem_cons.2 ⟨hfirst, hitems _ _⟩
    · simpa using hfirst
    · simpa using hfirst

theorem bounded_entries_step (hvalue : ∀ room cs, (value room fuel cs).1.Bounded)
    (hentries : ∀ room cs, ∀ d ∈ (entries room fuel cs).1.map Prod.snd, d.Bounded) :
    ∀ d ∈ (entries room (fuel + 1) cs).1.map Prod.snd, d.Bounded := by
  have broken (stop : Break) : (Draft.broken stop).Bounded := trivial
  unfold entries
  split
  · split
    · nofun
    · split
      · rename_i rest _
        have hfirst := hvalue room rest
        split
        · rename_i h
          rw [h] at hfirst
          simpa using hfirst
        · rename_i h
          rw [h] at hfirst
          split
          · simpa using hfirst
          · split
            · simpa using hfirst
            · simpa using hfirst
            · exact List.forall_mem_cons.2 ⟨hfirst, hentries _ _⟩
          · simpa using hfirst
          · simpa using hfirst
      · simpa using broken _
      · simpa using broken _
  · nofun

theorem bounded_reading (fuel : Nat) :
    (∀ room cs, (value room fuel cs).1.Bounded) ∧
      (∀ room cs, ∀ d ∈ (items room fuel cs).1, d.Bounded) ∧
      ∀ room cs, ∀ d ∈ (entries room fuel cs).1.map Prod.snd, d.Bounded := by
  induction fuel with
  | zero => exact ⟨fun _ _ => trivial, nofun, nofun⟩
  | succ fuel ih =>
    obtain ⟨hvalue, hitems, hentries⟩ := ih
    exact ⟨fun _ _ => bounded_value_step hitems hentries,
      fun _ _ => bounded_items_step hvalue hitems,
      fun _ _ => bounded_entries_step hvalue hentries⟩

theorem bounded_ofText (room : Nat) (cs : List Char) : (ofText room cs).1.Bounded := by
  have h := (bounded_reading (2 * cs.length + 2)).1 room cs
  unfold ofText
  split
  · rename_i hd
    rwa [hd] at h
  · rename_i hd
    rw [hd] at h
    split <;> exact h

theorem wellFormed_toItems {ds : List Draft} {vs : List Json} (h : toItems ds = .ok vs)
    (hds : ∀ d ∈ ds, ∀ v, d.toJson = .ok v → v.WellFormed) : ∀ v ∈ vs, v.WellFormed := by
  induction ds generalizing vs with
  | nil => cases h; nofun
  | cons d ds ih =>
    obtain ⟨w, ws, hw, hws, rfl⟩ := toItems_cons_iff.1 h
    obtain ⟨hd, hds⟩ := List.forall_mem_cons.1 hds
    exact List.forall_mem_cons.2 ⟨hd w hw, ih hws hds⟩

theorem wellFormed_toEntries {es : List (Except Break String × Draft)}
    {ws : List (String × Json)} (h : toEntries es = .ok ws)
    (hds : ∀ d ∈ es.map Prod.snd, ∀ v, d.toJson = .ok v → v.WellFormed) :
    ∀ e ∈ ws, e.2.WellFormed := by
  induction es generalizing ws with
  | nil => cases h; nofun
  | cons e es ih =>
    obtain ⟨key, w, rest, -, hw, hrest, rfl⟩ := toEntries_cons_iff.1 h
    obtain ⟨hd, hds⟩ := List.forall_mem_cons.1 hds
    exact List.forall_mem_cons.2 ⟨hd w hw, ih hrest hds⟩

theorem wellFormed_toJson {v : Json} (h : d.Bounded) (hv : d.toJson = .ok v) : v.WellFormed := by
  induction d using Draft.walk generalizing v with
  | step d ih =>
    obtain ⟨hd, hparts⟩ := throughout_iff.1 h
    have hbelow (e : Draft) (he : e ∈ d.parts) (w : Json) : e.toJson = .ok w → w.WellFormed :=
      ih e he (hparts e he)
    cases d with
    | arr flaw ds stop =>
      obtain ⟨-, -, vs, hvs, rfl⟩ := toJson_arr_iff.1 hv
      exact wellFormedItems_iff.2 (wellFormed_toItems hvs hbelow)
    | obj flaw es stop =>
      obtain ⟨-, -, ws, hws, rfl⟩ := toJson_obj_iff.1 hv
      have hall := wellFormed_toEntries hws hbelow
      refine ⟨ascending_collect ws, wellFormedEntries_iff.2 (List.forall_mem_map.2 ?_)⟩
      exact fun e he => hall e (mem_of_mem_collect he)
    | int n => cases hv; exact hd
    | flawed _ | broken _ => cases hv
    | null | bool _ | float _ | str _ => cases hv; trivial

end Draft

/-- What is read from a text has its entries in order and whole numbers of 64 bits. -/
theorem wellFormed_of_parseWithin {room : Nat} {cs : List Char} {v : Json}
    (h : parseWithin room cs = .ok v) : v.WellFormed := by
  obtain ⟨d, htext, hv⟩ := parseWithin_ok_iff.1 h
  have hd := Draft.bounded_ofText room cs
  rw [htext] at hd
  exact Draft.wellFormed_toJson hd hv

theorem parseBytes_encode (text : List Char) :
    parseBytes (Utf8.encode text) = parseWithin levels text := by
  rw [parseBytes, Utf8.strict?_encode]

theorem wellFormed_of_parseBytes {bytes : List UInt8} {v : Json} (h : parseBytes bytes = .ok v) :
    v.WellFormed := by
  unfold parseBytes at h
  split at h
  · exact wellFormed_of_parseWithin h
  · cases h

end Gazette.Json
