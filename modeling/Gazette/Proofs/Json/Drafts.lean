import Gazette.Proofs.Json.Sorted
import Gazette.Json.Parse

/-! # Drafts that are values

A draft gives a value if it has neither a flaw nor a break, and then its items and entries are those
of the value. Only the order of the entries is lost, and of those with one key all but the last. -/
namespace Gazette.Json
open Gazette.Wire

namespace Draft

def parts : Draft → List Draft
  | .arr _ ds _ => ds
  | .obj _ es _ => es.map Prod.snd
  | _ => []

/-- Induction over drafts, each after its parts. -/
theorem walk {P : Draft → Prop} (step : ∀ d, (∀ e ∈ d.parts, P e) → P d) (d : Draft) : P d := by
  have leaf (d : Draft) (h : d.parts = []) : P d := step d (by simp [h])
  refine Draft.rec (motive_1 := P) (motive_2 := fun ds => ∀ d ∈ ds, P d)
    (motive_3 := fun es => ∀ d ∈ es.map Prod.snd, P d) (motive_4 := fun e => P e.2)
    (leaf .null rfl) (fun b => leaf (.bool b) rfl) (fun n => leaf (.int n) rfl)
    (fun x => leaf (.float x) rfl) (fun s => leaf (.str s) rfl) (fun b => leaf (.flawed b) rfl)
    (fun b => leaf (.broken b) rfl) (fun flaw ds stop h => step (.arr flaw ds stop) h)
    (fun flaw es stop h => step (.obj flaw es stop) h) ?nil ?cons ?nil' ?cons' ?entry d
  case nil => simp
  case cons => exact fun d ds hd hds => List.forall_mem_cons.2 ⟨hd, hds⟩
  case nil' => simp
  case cons' => exact fun e es he hes => List.forall_mem_cons.2 ⟨he, hes⟩
  case entry => exact fun _ _ h => h

mutual
/-- Whether something holds of a draft and of all that is in it. -/
def Throughout (P : Draft → Prop) : Draft → Prop
  | .arr flaw items stop => P (.arr flaw items stop) ∧ ThroughoutItems P items
  | .obj flaw entries stop => P (.obj flaw entries stop) ∧ ThroughoutEntries P entries
  | d => P d
  termination_by structural d => d
def ThroughoutItems (P : Draft → Prop) : List Draft → Prop
  | [] => True
  | d :: ds => d.Throughout P ∧ ThroughoutItems P ds
  termination_by structural ds => ds
def ThroughoutEntries (P : Draft → Prop) : List (Except Break String × Draft) → Prop
  | [] => True
  | (_, d) :: es => d.Throughout P ∧ ThroughoutEntries P es
  termination_by structural es => es
end

def HasDistinctKeys : Draft → Prop
  | .obj _ entries _ => (entries.map Prod.fst).Nodup
  | _ => True

/-- No object in a draft gives two entries one key. -/
def Distinct (d : Draft) : Prop := d.Throughout HasDistinctKeys

variable {P : Draft → Prop} {d : Draft} {ds : List Draft}
  {es : List (Except Break String × Draft)} {v : Json} {flaw stop : Option Break}

theorem throughoutItems_iff : ThroughoutItems P ds ↔ ∀ d ∈ ds, d.Throughout P := by
  induction ds with
  | nil => simp [ThroughoutItems]
  | cons d ds ih => rw [ThroughoutItems, ih, List.forall_mem_cons]

theorem throughoutEntries_iff :
    ThroughoutEntries P es ↔ ∀ d ∈ es.map Prod.snd, d.Throughout P := by
  induction es with
  | nil => simp [ThroughoutEntries]
  | cons e es ih => rw [ThroughoutEntries, ih, List.map_cons, List.forall_mem_cons]

theorem throughout_iff : d.Throughout P ↔ P d ∧ ∀ e ∈ d.parts, e.Throughout P := by
  cases d with
  | arr flaw ds stop => rw [Throughout, throughoutItems_iff]; rfl
  | obj flaw es stop => rw [Throughout, throughoutEntries_iff]; rfl
  | null | bool _ | int _ | float _ | str _ | flawed _ | broken _ =>
    simp [Throughout, Draft.parts]

theorem refuse_ok_iff : refuse flaw = .ok () ↔ flaw = none := by
  cases flaw <;> simp [refuse]

theorem toJson_arr_iff : (Draft.arr flaw ds stop).toJson = .ok v ↔
    flaw = none ∧ stop = none ∧ ∃ vs, toItems ds = .ok vs ∧ v = .arr vs := by
  simp only [toJson, bind_ok_iff]
  constructor
  · rintro ⟨_, hflaw, vs, hvs, _, hstop, h⟩
    exact ⟨refuse_ok_iff.1 hflaw, refuse_ok_iff.1 hstop, vs, hvs, (Except.ok.inj h).symm⟩
  · rintro ⟨rfl, rfl, vs, hvs, rfl⟩
    exact ⟨(), rfl, vs, hvs, (), rfl, rfl⟩

theorem toJson_obj_iff : (Draft.obj flaw es stop).toJson = .ok v ↔
    flaw = none ∧ stop = none ∧ ∃ ws, toEntries es = .ok ws ∧ v = ofEntries ws := by
  simp only [toJson, bind_ok_iff]
  constructor
  · rintro ⟨_, hflaw, ws, hws, _, hstop, h⟩
    exact ⟨refuse_ok_iff.1 hflaw, refuse_ok_iff.1 hstop, ws, hws, (Except.ok.inj h).symm⟩
  · rintro ⟨rfl, rfl, ws, hws, rfl⟩
    exact ⟨(), rfl, ws, hws, (), rfl, rfl⟩

theorem toItems_cons_iff {vs : List Json} : toItems (d :: ds) = .ok vs ↔
    ∃ w ws, d.toJson = .ok w ∧ toItems ds = .ok ws ∧ vs = w :: ws := by
  simp only [toItems, bind_ok_iff]
  constructor
  · rintro ⟨w, hw, ws, hws, h⟩
    exact ⟨w, ws, hw, hws, (Except.ok.inj h).symm⟩
  · rintro ⟨w, ws, hw, hws, rfl⟩
    exact ⟨w, hw, ws, hws, rfl⟩

theorem toEntries_cons_iff {name : Except Break String} {ws : List (String × Json)} :
    toEntries ((name, d) :: es) = .ok ws ↔
      ∃ key w rest, name = .ok key ∧ d.toJson = .ok w ∧ toEntries es = .ok rest ∧
        ws = (key, w) :: rest := by
  simp only [toEntries, bind_ok_iff]
  constructor
  · rintro ⟨key, hkey, w, hw, rest, hrest, h⟩
    exact ⟨key, w, rest, hkey, hw, hrest, (Except.ok.inj h).symm⟩
  · rintro ⟨key, w, rest, hkey, hw, hrest, rfl⟩
    exact ⟨key, hkey, w, hw, rest, hrest, rfl⟩

theorem length_toItems {vs : List Json} (h : toItems ds = .ok vs) : ds.length = vs.length := by
  induction ds generalizing vs with
  | nil => cases h; rfl
  | cons d ds ih =>
    obtain ⟨w, ws, -, hws, rfl⟩ := toItems_cons_iff.1 h
    simp [ih hws]

theorem keys_toEntries {ws : List (String × Json)} (h : toEntries es = .ok ws) :
    es.map Prod.fst = (ws.map Prod.fst).map .ok := by
  induction es generalizing ws with
  | nil => cases h; rfl
  | cons e es ih =>
    obtain ⟨key, w, rest, hkey, -, hrest, rfl⟩ := toEntries_cons_iff.1 h
    simp [ih hrest, hkey]

theorem nodup_toEntries {ws : List (String × Json)} (h : toEntries es = .ok ws)
    (hk : (es.map Prod.fst).Nodup) : (ws.map Prod.fst).Nodup := by
  rw [keys_toEntries h] at hk
  exact hk.of_map

theorem stop?_of_toJson (h : d.toJson = .ok v) : d.stop? = none := by
  cases d with
  | broken stop => cases h
  | arr flaw ds stop => exact (toJson_arr_iff.1 h).2.1
  | obj flaw es stop => exact (toJson_obj_iff.1 h).2.1
  | null | bool _ | int _ | float _ | str _ | flawed _ => rfl

end Draft

/-- No object in the text gives two entries one key. -/
def DistinctText (text : String) : Prop := (Draft.ofText levels text.toList).1.Distinct

/-- A text that holds a value is a draft of it, with nothing behind. -/
theorem parseWithin_ok_iff {room : Nat} {cs : List Char} {v : Json} :
    parseWithin room cs = .ok v ↔ ∃ d, Draft.ofText room cs = (d, none) ∧ d.toJson = .ok v := by
  unfold parseWithin
  rcases Draft.ofText room cs with ⟨d, _ | stop⟩ <;> cases hd : d.toJson <;> simp [hd]

end Gazette.Json
