import Gazette.Proofs.Json.Drafts
import Gazette.Proofs.Json.Leaves

/-! # Values read back from their texts

A value without floating-point numbers is read back from what is written for it, with its entries put
in order, as long as the brackets in it do not stand deeper than the reader goes. If they do, the
reader refuses the text for that. -/
namespace Gazette.Json
open Gazette.Wire

/-- A number with a text of its own: a whole number that fits 64 bits. What is no number has one
too. -/
def HasText : Json → Prop
  | .int n => -0x8000000000000000 ≤ n ∧ n < 0x10000000000000000
  | .float _ => False
  | _ => True

/-- Every number in a value is whole and fits 64 bits. -/
def Exact (v : Json) : Prop := v.Throughout HasText

variable {v w : Json} {vs : List Json} {es : List (String × Json)} {key : String} {k : List Char}

theorem Exact.parts (h : v.Exact) : ∀ w ∈ v.parts, w.Exact := (throughout_iff.1 h).2

/-- Sorting keeps the numbers of a value. -/
theorem exact_of_sorted (h : v.Distinct) (hs : v.sorted.Exact) : v.Exact := by
  induction v using Json.walk with
  | step v ih =>
    obtain ⟨hv, hparts⟩ := throughout_iff.1 h
    obtain ⟨hhere, hbelow⟩ := throughout_iff.1 hs
    have below (w : Json) (hw : w ∈ v.parts) (hmem : w.sorted ∈ v.sorted.parts) : w.Exact :=
      ih w hw (hparts w hw) (hbelow _ hmem)
    cases v with
    | arr vs =>
      refine throughout_iff.2 ⟨trivial, fun w hw => below w hw ?_⟩
      rw [sorted, sortedItems_eq]
      exact List.mem_map_of_mem hw
    | obj es =>
      refine throughout_iff.2 ⟨trivial, fun w hw => below w hw ?_⟩
      obtain ⟨e, he, rfl⟩ := List.mem_map.1 hw
      have hmem : (e.1, e.2.sorted) ∈ collect (sortedEntries es) := by
        rw [(collect_sortedEntries_perm hv).mem_iff, sortedEntries_eq]
        exact List.mem_map_of_mem (f := fun e => (e.1, e.2.sorted)) he
      exact List.mem_map_of_mem hmem
    | null | bool _ | int _ | float _ | str _ => exact hs

theorem Arranges.exact (h : w.Arranges v) (hv : v.Exact) : w.Exact :=
  exact_of_sorted h.distinct (by rwa [h.sorted_eq])

/-! ## The text of a value

It starts with a character that is neither blank nor a closing bracket. -/

theorem writeItems_eq (h : ∀ v ∈ vs, ∀ k, ∃ c t, v.write k = c :: (t ++ k)) (k : List Char) :
    ∃ c t, writeItems vs k = c :: (t ++ k) ∧ (c = ',' ∨ c = ']') := by
  induction vs with
  | nil => exact ⟨']', [], rfl, .inr rfl⟩
  | cons v vs ih =>
    obtain ⟨hv, hvs⟩ := List.forall_mem_cons.1 h
    obtain ⟨c, t, hrest, -⟩ := ih hvs
    obtain ⟨c', t', hfirst⟩ := hv (writeItems vs k)
    exact ⟨',', c' :: (t' ++ c :: t), by rw [writeItems, hfirst, hrest]; simp, .inl rfl⟩

theorem writeEntries_eq (h : ∀ v ∈ es.map Prod.snd, ∀ k, ∃ c t, v.write k = c :: (t ++ k))
    (k : List Char) : ∃ c t, writeEntries es k = c :: (t ++ k) ∧ (c = ',' ∨ c = '}') := by
  induction es with
  | nil => exact ⟨'}', [], rfl, .inr rfl⟩
  | cons e es ih =>
    obtain ⟨hv, hvs⟩ := List.forall_mem_cons.1 h
    obtain ⟨c, t, hrest, -⟩ := ih hvs
    obtain ⟨c', t', hfirst⟩ := hv (writeEntries es k)
    exact ⟨',', writtenString e.1 ++ ':' :: c' :: (t' ++ c :: t),
      by rw [writeEntries, hfirst, hrest]; simp, .inl rfl⟩

theorem write_eq (h : v.Exact) (k : List Char) :
    ∃ c t, v.write k = c :: (t ++ k) ∧ Draft.isSpace c = false ∧ c ≠ ']' := by
  induction v using Json.walk generalizing k with
  | step v ih =>
    have hparts (w : Json) (hw : w ∈ v.parts) (k : List Char) :
        ∃ c t, w.write k = c :: (t ++ k) := by
      obtain ⟨c, t, hwrite, -⟩ := ih w hw (h.parts w hw) k
      exact ⟨c, t, hwrite⟩
    cases v with
    | null => exact ⟨'n', ['u', 'l', 'l'], rfl, rfl, by decide⟩
    | bool b =>
      cases b with
      | false => exact ⟨'f', ['a', 'l', 's', 'e'], rfl, rfl, by decide⟩
      | true => exact ⟨'t', ['r', 'u', 'e'], rfl, rfl, by decide⟩
    | int n =>
      obtain ⟨c, ds, hn, hc⟩ := writtenInt_cases n
      refine ⟨c, ds, by simp [write, hn], ?_⟩
      rcases hc with rfl | hc
      · exact ⟨rfl, by decide⟩
      · exact ⟨isSpace_of_isDigit hc, by rintro rfl; cases hc⟩
    | float x => exact h.elim
    | str s => exact ⟨'"', s.toList.flatMap escapedChar ++ ['"'], rfl, rfl, by decide⟩
    | arr vs =>
      cases vs with
      | nil => exact ⟨'[', [']'], rfl, rfl, by decide⟩
      | cons v vs =>
        obtain ⟨hv, hvs⟩ := List.forall_mem_cons.1 hparts
        obtain ⟨c, t, hrest, -⟩ := writeItems_eq hvs k
        obtain ⟨c', t', hfirst⟩ := hv (writeItems vs k)
        exact ⟨'[', c' :: (t' ++ c :: t), by rw [write, hfirst, hrest]; simp, rfl, by decide⟩
    | obj es =>
      cases es with
      | nil => exact ⟨'{', ['}'], rfl, rfl, by decide⟩
      | cons e es =>
        obtain ⟨hv, hvs⟩ := List.forall_mem_cons.1 hparts
        obtain ⟨c, t, hrest, -⟩ := writeEntries_eq hvs k
        obtain ⟨c', t', hfirst⟩ := hv (writeEntries es k)
        exact ⟨'{', writtenString e.1 ++ ':' :: c' :: (t' ++ c :: t),
          by rw [write, hfirst, hrest]; simp, rfl, by decide⟩

/-! ## The text read again -/

/-- What reading comes to where `room` levels of brackets are left and `depth` of them are needed. -/
structure Limited {α : Type} (room depth : Nat) (a : Except Break α) (x : α) : Prop where
  reached : depth ≤ room → a = .ok x
  exceeded : room < depth → ∃ b, a = .error b ∧ b.cause = .tooDeep

namespace Limited

variable {α β γ : Type} {room d e : Nat} {a : Except Break α} {b : Except Break β} {x : α} {y : β}

theorem ok (x : α) : Limited room 0 (.ok x) x := ⟨fun _ => rfl, fun h => absurd h (by omega)⟩

theorem both (f : α → β → γ) (ha : Limited room d a x) (hb : Limited room e b y) :
    Limited room (max d e) (do let x ← a; let y ← b; .ok (f x y)) (f x y) := by
  constructor
  · intro h
    rw [ha.reached (by omega), hb.reached (by omega)]
    rfl
  · intro h
    by_cases hd : d ≤ room
    · obtain ⟨flaw, hflaw, hcause⟩ := hb.exceeded (by omega)
      rw [ha.reached hd, hflaw]
      exact ⟨flaw, rfl, hcause⟩
    · obtain ⟨flaw, hflaw, hcause⟩ := ha.exceeded (by omega)
      rw [hflaw]
      exact ⟨flaw, rfl, hcause⟩

/-- A bracket takes one level. -/
theorem bracket (f : α → β) (cs : List Char) (ha : Limited (room - 1) d a x) :
    Limited room (d + 1)
      (do refuse (Draft.tooDeep? room cs); let x ← a; refuse none; .ok (f x)) (f x) := by
  cases room with
  | zero => exact ⟨fun h => absurd h (by omega), fun _ => ⟨.ahead .tooDeep cs, rfl, rfl⟩⟩
  | succ room =>
    have hopen : Draft.tooDeep? (room + 1) cs = none := rfl
    rw [hopen]
    constructor
    · intro h
      rw [ha.reached (by omega)]
      rfl
    · intro h
      obtain ⟨flaw, hflaw, hcause⟩ := ha.exceeded (by omega)
      rw [hflaw]
      exact ⟨flaw, rfl, hcause⟩

end Limited

-- Each character takes at most two calls of the reader: one for the value it starts, and one for the
-- list that value is an item of.
/-- A value is read from its text wherever that ends. -/
def Reads (v : Json) : Prop :=
  ∀ room fuel k, Ends k → 2 * (v.write k).length ≤ fuel →
    ∃ d, Draft.value room fuel (v.write k) = (d, .ok k) ∧ Limited room v.depth d.toJson v.sorted

namespace Draft

variable {room fuel : Nat} {c : Char} {cs rest k : List Char} {d : Draft} {ds : List Draft}
  {es : List (Except Break String × Draft)} {key : String}

theorem skip_cons (h : isSpace c = false) : skip (c :: cs) = c :: cs := by simp [skip, h]

theorem items_last (hd : value room fuel cs = (d, .ok (']' :: k))) :
    items room (fuel + 1) cs = ([d], .ok k) := by
  rw [items, hd]
  rfl

theorem items_more (hd : value room fuel cs = (d, .ok (',' :: c :: rest)))
    (hspace : isSpace c = false) (hclose : c ≠ ']')
    (hs : items room fuel (c :: rest) = (ds, .ok k)) :
    items room (fuel + 1) cs = (d :: ds, .ok k) := by
  have hcomma : skip (',' :: c :: rest) = ',' :: c :: rest := skip_cons rfl
  rw [items, hd]
  simp [hcomma, skip_cons hspace, hclose, hs]

theorem entries_last (hd : value room fuel rest = (d, .ok ('}' :: k))) :
    entries room (fuel + 1) (writtenString key ++ ':' :: rest) = ([(.ok key, d)], .ok k) := by
  have hcolon : skip (':' :: rest) = ':' :: rest := skip_cons rfl
  have hbrace : skip ('}' :: k) = '}' :: k := skip_cons rfl
  rw [writtenString_append, entries, string_written]
  simp [hcolon, hd, hbrace]

theorem entries_more {key' : String}
    (hd : value room fuel rest = (d, .ok (',' :: (writtenString key' ++ cs))))
    (hs : entries room fuel (writtenString key' ++ cs) = (es, .ok k)) :
    entries room (fuel + 1) (writtenString key ++ ':' :: rest) = ((.ok key, d) :: es, .ok k) := by
  have hcolon : skip (':' :: rest) = ':' :: rest := skip_cons rfl
  rw [writtenString_append] at hd hs
  rw [writtenString_append, entries, string_written]
  simp only [hcolon, hd]
  rw [skip_cons rfl]
  simp only
  rw [skip_cons rfl]
  simp [hs]

theorem value_number (hc : c = '-' ∨ c.isDigit = true) :
    value room (fuel + 1) (c :: cs) = number (c :: cs) := by
  have hspace : isSpace c = false := by
    rcases hc with rfl | hc
    · rfl
    · exact isSpace_of_isDigit hc
  have hother : c ∉ ['n', 't', 'f', '"', '[', '{'] := by
    rintro hmem
    simp only [List.mem_cons, List.not_mem_nil, or_false] at hmem
    rcases hmem with rfl | rfl | rfl | rfl | rfl | rfl <;> simp at hc
  simp only [List.mem_cons, List.not_mem_nil, or_false, not_or] at hother
  rw [value, skip_cons hspace]
  simp [hother, hc]

theorem value_string (s : String) (k : List Char) :
    value room (fuel + 1) (writtenString s ++ k) = (.str s, .ok k) := by
  rw [writtenString_append, value, skip_cons rfl]
  simp [text, string_written]

theorem value_arr (hspace : isSpace c = false) (hclose : c ≠ ']')
    (hs : items (room - 1) fuel (c :: rest) = (ds, .ok k)) :
    value room (fuel + 1) ('[' :: c :: rest) =
      (.arr (tooDeep? room ('[' :: c :: rest)) ds none, .ok k) := by
  rw [value, skip_cons rfl]
  simp [skip_cons hspace, hclose, hs, stopOf]

theorem value_obj (hs : entries (room - 1) fuel (writtenString key ++ rest) = (es, .ok k)) :
    value room (fuel + 1) ('{' :: (writtenString key ++ rest)) =
      (.obj (tooDeep? room ('{' :: (writtenString key ++ rest))) es none, .ok k) := by
  rw [writtenString_append] at hs ⊢
  rw [value, skip_cons rfl]
  simp only
  rw [skip_cons rfl]
  simp [hs, stopOf]

end Draft

variable {fuel : Nat}

theorem items_written (room : Nat) (h : ∀ w ∈ v :: vs, w.Exact ∧ Reads w)
    (hfuel : 2 * (v.write (writeItems vs k)).length < fuel) :
    ∃ ds, Draft.items room fuel (v.write (writeItems vs k)) = (ds, .ok k) ∧
      Limited room (depthItems (v :: vs)) (Draft.toItems ds) (sortedItems (v :: vs)) := by
  induction vs generalizing v fuel with
  | nil =>
    cases fuel with
    | zero => omega
    | succ fuel =>
      have hends : Ends (writeItems [] k) := by simp [Ends, writeItems]
      obtain ⟨d, hd, hv⟩ := (h v List.mem_cons_self).2 room fuel _ hends (by omega)
      exact ⟨[d], Draft.items_last hd, hv.both _ (.ok [])⟩
  | cons w vs ih =>
    cases fuel with
    | zero => omega
    | succ fuel =>
      obtain ⟨hv, hvs⟩ := List.forall_mem_cons.1 h
      have hends : Ends (writeItems (w :: vs) k) := by simp [Ends, writeItems]
      obtain ⟨d, hd, hfirst⟩ := hv.2 room fuel _ hends (by omega)
      obtain ⟨_, t, hlonger, -⟩ := write_eq hv.1 (writeItems (w :: vs) k)
      have hshort : 2 * (w.write (writeItems vs k)).length < fuel := by
        rw [hlonger] at hfuel
        simp only [writeItems, List.length_cons, List.length_append] at hfuel
        omega
      obtain ⟨ds, hds, hrest⟩ := ih hvs hshort
      obtain ⟨c, t, hwrite, hspace, hclose⟩ :=
        write_eq (hvs w List.mem_cons_self).1 (writeItems vs k)
      have hnext : writeItems (w :: vs) k = ',' :: c :: (t ++ writeItems vs k) := by
        rw [writeItems, hwrite]
      rw [hwrite] at hds
      exact ⟨d :: ds, Draft.items_more (hd.trans (by rw [hnext])) hspace hclose hds,
        hfirst.both _ hrest⟩

theorem entries_written (room : Nat) (hv : v.Exact ∧ Reads v)
    (h : ∀ w ∈ es.map Prod.snd, w.Exact ∧ Reads w)
    (hfuel : 2 * (writtenString key ++ ':' :: v.write (writeEntries es k)).length < fuel) :
    ∃ ds, Draft.entries room fuel (writtenString key ++ ':' :: v.write (writeEntries es k)) =
        (ds, .ok k) ∧
      Limited room (depthEntries ((key, v) :: es)) (Draft.toEntries ds)
        (sortedEntries ((key, v) :: es)) := by
  induction es generalizing key v fuel with
  | nil =>
    cases fuel with
    | zero => omega
    | succ fuel =>
      have hends : Ends (writeEntries [] k) := by simp [Ends, writeEntries]
      have hshort : 2 * (v.write (writeEntries [] k)).length ≤ fuel := by
        simp only [List.length_append, List.length_cons] at hfuel
        omega
      obtain ⟨d, hd, hlimited⟩ := hv.2 room fuel _ hends hshort
      exact ⟨[(.ok key, d)], Draft.entries_last hd,
        hlimited.both (fun w ws => (key, w) :: ws) (.ok [])⟩
  | cons e es ih =>
    cases fuel with
    | zero => omega
    | succ fuel =>
      obtain ⟨he, hes⟩ := List.forall_mem_cons.1 h
      have hends : Ends (writeEntries (e :: es) k) := by simp [Ends, writeEntries]
      have hnext : writeEntries (e :: es) k =
          ',' :: (writtenString e.1 ++ ':' :: e.2.write (writeEntries es k)) := by rw [writeEntries]
      obtain ⟨_, t, hlonger, -⟩ := write_eq hv.1 (writeEntries (e :: es) k)
      have hlength := congrArg List.length hlonger
      have hlength' := congrArg List.length hnext
      simp only [List.length_append, List.length_cons] at hfuel hlength hlength'
      obtain ⟨d, hd, hfirst⟩ := hv.2 room fuel _ hends (by omega)
      have hshort :
          2 * (writtenString e.1 ++ ':' :: e.2.write (writeEntries es k)).length < fuel := by
        simp only [List.length_append, List.length_cons]
        omega
      obtain ⟨ds, hds, hrest⟩ := ih he hes hshort
      exact ⟨(.ok key, d) :: ds, Draft.entries_more (hd.trans (by rw [hnext])) hds,
        hfirst.both (fun w ws => (key, w) :: ws) hrest⟩

/-- Every value that has a text of its own is read from it. -/
theorem reads (h : v.Exact) : Reads v := by
  induction v using Json.walk with
  | step v ih =>
    intro room fuel k hk hfuel
    have hparts (w : Json) (hw : w ∈ v.parts) : w.Exact ∧ Reads w :=
      ⟨h.parts w hw, ih w hw (h.parts w hw)⟩
    cases fuel with
    | zero =>
      obtain ⟨c, t, hwrite, -⟩ := write_eq h k
      simp [hwrite] at hfuel
    | succ fuel =>
      cases v with
      | null => exact ⟨.null, rfl, .ok Json.null⟩
      | bool b => cases b <;> exact ⟨_, rfl, .ok _⟩
      | int n =>
        obtain ⟨c, ds, hn, hc⟩ := writtenInt_cases n
        refine ⟨.int n, ?_, .ok (Json.int n)⟩
        rw [write, hn, List.cons_append, Draft.value_number hc, ← List.cons_append, ← hn]
        exact number_writtenInt h.1 h.2 hk
      | float x => exact h.elim
      | str s =>
        exact ⟨.str s, Draft.value_string s k, .ok (Json.str s)⟩
      | arr vs =>
        cases vs with
        | nil => exact ⟨_, rfl, Limited.bracket Json.arr _ (.ok [])⟩
        | cons v vs =>
          have hshort : 2 * (v.write (writeItems vs k)).length < fuel := by
            simp only [write, List.length_cons] at hfuel
            omega
          obtain ⟨ds, hds, hitems⟩ := items_written (room - 1) hparts hshort
          obtain ⟨c, t, hwrite, hspace, hclose⟩ :=
            write_eq (hparts v List.mem_cons_self).1 (writeItems vs k)
          rw [hwrite] at hds
          rw [write, hwrite]
          exact ⟨_, Draft.value_arr hspace hclose hds, hitems.bracket Json.arr _⟩
      | obj es =>
        cases es with
        | nil => exact ⟨_, rfl, Limited.bracket ofEntries _ (.ok [])⟩
        | cons e es =>
          obtain ⟨hv, hes⟩ := List.forall_mem_cons.1 hparts
          have hshort :
              2 * (writtenString e.1 ++ ':' :: e.2.write (writeEntries es k)).length < fuel := by
            simp only [write, List.length_cons] at hfuel
            omega
          obtain ⟨ds, hds, hentries⟩ := entries_written (room - 1) hv hes hshort
          rw [write]
          exact ⟨_, Draft.value_obj hds, hentries.bracket ofEntries _⟩

/-- What is written for a value, with the entries of its objects in any order, is read back as the
value itself, unless brackets in it stand deeper than the reader goes. -/
theorem parseWithin_write (hw : w.Arranges v) (hv : v.Exact) (room : Nat) :
    (v.depth ≤ room → parseWithin room (w.write []) = .ok v) ∧
      (room < v.depth → ∃ f, parseWithin room (w.write []) = .error f ∧ f.cause = .tooDeep) := by
  have hends : Ends [] := by simp [Ends]
  obtain ⟨d, hd, hlimited⟩ := reads (hw.exact hv) room (2 * (w.write []).length + 2) [] hends
    (by omega)
  rw [hw.depth_eq, hw.sorted_eq] at hlimited
  have htext : Draft.ofText room (w.write []) = (d, none) := by
    rw [Draft.ofText, hd]
    rfl
  constructor
  · exact fun hdepth => parseWithin_ok_iff.2 ⟨d, htext, hlimited.reached hdepth⟩
  · intro hdepth
    obtain ⟨b, hb, hcause⟩ := hlimited.exceeded hdepth
    rw [parseWithin, htext]
    exact ⟨b.fault (w.write []), by simp [hb], hcause⟩

end Gazette.Json
