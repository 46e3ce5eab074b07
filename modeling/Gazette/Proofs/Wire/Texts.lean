import Mathlib.Data.List.Find
import Gazette.Proofs.Json.Drafts
import Gazette.Wire.ReadText

/-! # Texts read as values and as records

A record is read from a text in the order of the text, and from a value in the order of its keys.
Both give the same if the text is a value and repeats no key. -/
namespace Gazette.Wire
open Gazette.Json

theorem checked_ok_iff {α : Type} {a : Except Mismatch α} {x : α} :
    checked a = .ok x ↔ a = .ok x := by
  cases a <;> simp [checked]

theorem Field.skipsDraft_eq {ρ : Type} (f : Field ρ) {d : Draft} {v : Json} (h : d.toJson = .ok v) :
    f.skipsDraft d = f.skips v := by
  cases d with
  | arr flaw ds stop =>
    obtain ⟨-, -, vs, -, rfl⟩ := Draft.toJson_arr_iff.1 h
    rfl
  | obj flaw es stop =>
    obtain ⟨-, -, ws, -, rfl⟩ := Draft.toJson_obj_iff.1 h
    rfl
  | flawed _ | broken _ => cases h
  | null | bool _ | int _ | float _ | str _ => cases h; rfl

/-- Only the keys of the fields count. -/
theorem Record.checkKeys_congr {ρ : Type} {r : Record ρ} {keys keys' : List String}
    (h : ∀ key ∈ r.keys, key ∈ keys ↔ key ∈ keys') : r.checkKeys keys = r.checkKeys keys' := by
  have hfind : r.fields.find? (fun f => f.absence = .never ∧ f.key ∉ keys) =
      r.fields.find? (fun f => f.absence = .never ∧ f.key ∉ keys') := by
    refine List.find?_congr ?_
    intro f hf
    simp [h f.key (List.mem_map_of_mem hf)]
  rw [checkKeys, checkKeys, hfind]

theorem Record.field?_isSome {ρ : Type} {r : Record ρ} {key : String} (h : key ∈ r.keys) :
    (r.field? key).isSome := by
  obtain ⟨f, hf, rfl⟩ := List.mem_map.1 h
  exact List.find?_isSome.2 ⟨f, hf, by simp⟩

/-- Reading the draft and reading the value it gives have the same result, unless both fail. -/
def Agrees (d : Draft) : Prop :=
  ∀ v, d.toJson = .ok v → ∀ (s : Schema) (x : s.Carrier),
    s.readDraft d = .ok x ↔ s.read v = .ok x

section
variable {ds : List Draft} {vs : List Json} {item : Schema}

theorem readDraftItems_iff (ih : ∀ d ∈ ds, Agrees d) (h : Draft.toItems ds = .ok vs)
    {xs : List item.Carrier} :
    readDraftItems item ds = .ok xs ↔ readItems item vs = .ok xs := by
  induction ds generalizing vs xs with
  | nil => cases h; simp [readDraftItems, readItems]
  | cons d ds hrest =>
    obtain ⟨w, ws, hw, hws, rfl⟩ := Draft.toItems_cons_iff.1 h
    obtain ⟨hfirst, ih⟩ := List.forall_mem_cons.1 ih
    simp only [readDraftItems, readItems, bind_ok_iff, hfirst w hw, hrest ih hws,
      Except.ok.injEq]

variable {s : Schema} {fs : List (Field s.Carrier)} {x z : s.Carrier}

theorem readDraftFields_iff (ih : ∀ d ∈ ds, Agrees d) (h : Draft.toItems ds = .ok vs) :
    readDraftFields s fs ds x = .ok z ↔ readFields s fs vs x = .ok z := by
  induction ds generalizing vs fs x with
  | nil => cases h; cases fs <;> simp [readDraftFields, readFields]
  | cons d ds hrest =>
    obtain ⟨w, ws, hw, hws, rfl⟩ := Draft.toItems_cons_iff.1 h
    obtain ⟨hfirst, ih⟩ := List.forall_mem_cons.1 ih
    cases fs with
    | nil => simp [readDraftFields, readFields]
    | cons f fs =>
      rw [readDraftFields, readFields, f.skipsDraft_eq hw]
      split
      · exact hrest ih hws
      · simp only [bind_ok_iff, hfirst w hw, hrest ih hws]

variable {es : List (Except Break String × Draft)} {ws : List (String × Json)} {r : Record s.Carrier}
  {given keys : List String}

/-- Read in their own order, entries give what the values under the same keys give, and on the way
the keys of the fields among them are gathered. -/
theorem readDraftEntries_iff (ih : ∀ d ∈ es.map Prod.snd, Agrees d)
    (h : Draft.toEntries es = .ok ws) (hk : (ws.map Prod.fst ++ given).Nodup) :
    readDraftEntries s r given es x = .ok (keys, z) ↔
      readEntries s r ws x = .ok z ∧
        keys = ((ws.map Prod.fst).filter fun key => (r.field? key).isSome).reverse ++ given := by
  induction es generalizing ws given x with
  | nil =>
    cases h
    simp [readDraftEntries, readEntries, and_comm, eq_comm]
  | cons e es hrest =>
    obtain ⟨name, d⟩ := e
    obtain ⟨key, w, ws, rfl, hw, hws, rfl⟩ := Draft.toEntries_cons_iff.1 h
    obtain ⟨hfirst, ih⟩ := List.forall_mem_cons.1 ih
    obtain ⟨hfresh, hk⟩ := List.nodup_cons.1 hk
    rw [readDraftEntries, readEntries]
    cases hf : r.field? key with
    | none =>
      simp [Draft.stop?_of_toJson hw, unbroken, hrest ih hws hk, hf]
    | some f =>
      have hgiven : key ∉ given := fun hmem => hfresh (List.mem_append_right _ hmem)
      have hk' : (ws.map Prod.fst ++ key :: given).Nodup :=
        List.nodup_middle.2 (List.nodup_cons.2 ⟨hfresh, hk⟩)
      simp only [hgiven, if_false, f.skipsDraft_eq hw]
      -- From here on the key counts as given, so it must not come again.
      split
      · simp [hrest ih hws hk', hf]
      · simp only [bind_ok_iff, hfirst w hw, hrest ih hws hk']
        simp [hf]
        grind

end

variable {s : Schema} {r : Record s.Carrier} {x : s.Carrier} {v : Json} {d : Draft}
  {ds : List Draft} {es : List (Except Break String × Draft)} {flaw stop : Option Break}

theorem Schema.readDraft_obj (h : s.record? = some r) :
    s.readDraft (.obj none es none) = (do
      let (keys, x) ← readDraftEntries s r [] es r.start
      checked (r.checkKeys keys)
      .ok x) := by
  cases s <;> cases h <;> rfl

theorem Schema.readDraft_arr (h : s.record? = some r) :
    s.readDraft (.arr none ds none) = (do
      let x ← readDraftFields s r.fields ds r.start
      if r.fields.length < ds.length then .error .malformed
      checked (r.checkLength ds.length)
      .ok x) := by
  cases s <;> cases h <;> rfl

theorem readDraft_obj_iff (hr : s.record? = some r) (ih : ∀ d ∈ es.map Prod.snd, Agrees d)
    (hkeys : (es.map Prod.fst).Nodup) (h : (Draft.obj flaw es stop).toJson = .ok v) :
    s.readDraft (.obj flaw es stop) = .ok x ↔ s.read v = .ok x := by
  obtain ⟨rfl, rfl, ws, hws, rfl⟩ := Draft.toJson_obj_iff.1 h
  have hk : (ws.map Prod.fst).Nodup := Draft.nodup_toEntries hws hkeys
  have hsorted : (collect ws).Perm ws := collect_perm hk
  have hfresh : (ws.map Prod.fst ++ []).Nodup := by simpa using hk
  have hread (z : s.Carrier) : readEntries s r ws r.start = .ok z ↔
      readEntries s r (collect ws) r.start = .ok z :=
    readEntries_perm (Schema.lawful hr) hsorted.symm hk
  have hdraft (keys : List String) (z : s.Carrier) :
      readDraftEntries s r [] es r.start = .ok (keys, z) ↔ readEntries s r ws r.start = .ok z ∧
        keys = ((ws.map Prod.fst).filter fun key => (r.field? key).isSome).reverse ++ [] :=
    readDraftEntries_iff ih hws hfresh
  have hcheck : r.checkKeys (((ws.map Prod.fst).filter fun key => (r.field? key).isSome).reverse) =
      r.checkKeys ((collect ws).map Prod.fst) := by
    refine Record.checkKeys_congr fun key hkey => ?_
    rw [List.mem_reverse, List.mem_filter, (hsorted.map Prod.fst).mem_iff]
    exact and_iff_left (Record.field?_isSome hkey)
  rw [Schema.readDraft_obj hr, ofEntries, Schema.read_obj hr]
  simp [bind_ok_iff, Prod.exists, hdraft, hread, hcheck, checked_ok_iff]

theorem readDraft_arr_iff (hr : s.record? = some r) (ih : ∀ d ∈ ds, Agrees d)
    (h : (Draft.arr flaw ds stop).toJson = .ok v) :
    s.readDraft (.arr flaw ds stop) = .ok x ↔ s.read v = .ok x := by
  obtain ⟨rfl, rfl, vs, hvs, rfl⟩ := Draft.toJson_arr_iff.1 h
  have hread (z : s.Carrier) : readDraftFields s r.fields ds r.start = .ok z ↔
      readFields s r.fields vs r.start = .ok z :=
    readDraftFields_iff ih hvs
  rw [Schema.readDraft_arr hr, Schema.read_arr hr]
  rw [Draft.length_toItems hvs]
  -- Too many items are a fault of the text on the one side and a misfit on the other.
  by_cases hlong : r.fields.length < vs.length
  · simp [bind_ok_iff, hlong, Record.checkLength]
  · simp [bind_ok_iff, hlong, hread, checked_ok_iff]

theorem readDraft_list_iff {item : Schema} {xs : List item.Carrier} (ih : ∀ d ∈ ds, Agrees d)
    (h : (Draft.arr flaw ds stop).toJson = .ok v) :
    (Schema.list item).readDraft (.arr flaw ds stop) = .ok xs ↔
      (Schema.list item).read v = .ok xs := by
  obtain ⟨rfl, rfl, vs, hvs, rfl⟩ := Draft.toJson_arr_iff.1 h
  have hread : readDraftItems item ds = .ok xs ↔ readItems item vs = .ok xs :=
    readDraftItems_iff ih hvs
  simp only [Schema.readDraft, Schema.read]
  simp [bind_ok_iff, unbroken, hread]

theorem readDraft_any_iff {w : Json} (h : d.toJson = .ok v) :
    Schema.any.readDraft d = .ok w ↔ Schema.any.read v = .ok w := by
  simp [Schema.readDraft, Schema.read, h]

theorem agrees (h : d.Distinct) : Agrees d := by
  induction d using Draft.walk with
  | step d ih =>
    obtain ⟨hkeys, hparts⟩ := Draft.throughout_iff.1 h
    have ih (e : Draft) (he : e ∈ d.parts) : Agrees e := ih e he (hparts e he)
    intro v hv s x
    cases d with
    | arr flaw ds stop =>
      cases hr : s.record? with
      | some r => exact readDraft_arr_iff hr ih hv
      | none =>
        cases s with
        | any => exact readDraft_any_iff hv
        | list item => exact readDraft_list_iff ih hv
        | text | flag | integer _ | kind | identifier =>
          obtain ⟨-, -, vs, -, rfl⟩ := Draft.toJson_arr_iff.1 hv
          simp [Schema.readDraft, Schema.read, Schema.record?]
        | _ => cases hr
    | obj flaw es stop =>
      cases hr : s.record? with
      | some r => exact readDraft_obj_iff hr ih hkeys hv
      | none =>
        cases s with
        | any => exact readDraft_any_iff hv
        | text | flag | integer _ | list _ | kind | identifier =>
          obtain ⟨-, -, ws, -, rfl⟩ := Draft.toJson_obj_iff.1 hv
          simp [Schema.readDraft, Schema.read, Schema.record?, ofEntries]
        | _ => cases hr
    | flawed _ | broken _ => cases hv
    | null | bool _ | int _ | float _ | str _ =>
      cases hv
      cases s <;> simp [Schema.readDraft, Schema.read, Draft.toJson, misfit, checked_ok_iff]

/-- A text that is a value and repeats no key is read as a form, each field when its turn in the text
comes, if and only if the value is, and with the same result. -/
theorem readText_iff_read {text : String} {v : Json} (h : Json.parse text = .ok v)
    (hd : Json.DistinctText text) (s : Schema) (x : s.Carrier) :
    s.readText text = .ok x ↔ s.read v = .ok x := by
  obtain ⟨d, htext, hv⟩ := parseWithin_ok_iff.1 h
  have hdistinct : d.Distinct := by rwa [Json.DistinctText, htext] at hd
  rw [← agrees hdistinct v hv s x, Schema.readText, htext]
  simp [bind_ok_iff, unbroken]

set_option maxRecDepth 2000 in
/-- A text with an escaped key and a key of no field, its keys not in their order. -/
theorem readText_iff_read_heading :
    let text := "\x7b \"\\u0074ype\": \"heading\",\n\"rank\": [\x7b\x7d]," ++
      " \"depth\": -2, \"children\": [[\"text\"]]\x7d"
    let v : Json := .obj [("children", .arr [.arr [.str "text"]]), ("depth", .int (-2)),
      ("rank", .arr [.obj []]), ("type", .str "heading")]
    let n : Node := { kind := .heading, depth := -2, children := [.ofKind .text] }
    Json.parse text = .ok v ∧ Json.DistinctText text ∧ Schema.node.readText text = .ok n := by
  intro text v n
  have hdraft : Draft.ofText levels text.toList =
      (.obj none [(.ok "type", .str "heading"), (.ok "rank", .arr none [.obj none [] none] none),
        (.ok "depth", .int (-2)),
        (.ok "children", .arr none [.arr none [.str "text"] none] none)] none, none) := by
    simp only [text, String.reduceAppend, String.reduceToList]
    rfl
  have hparse : Json.parse text = .ok v := parseWithin_ok_iff.2 ⟨_, hdraft, rfl⟩
  have hdistinct : Json.DistinctText text := by
    rw [Json.DistinctText, hdraft]
    simp [Draft.Distinct, Draft.Throughout, Draft.ThroughoutItems, Draft.ThroughoutEntries,
      Draft.HasDistinctKeys]
  exact ⟨hparse, hdistinct, (readText_iff_read hparse hdistinct .node n).2 rfl⟩

end Gazette.Wire
