import Gazette.Proofs.Wire.Records

/-! # Entries sorted by their keys

Sorting keeps the entries as they are if no key is repeated, and leaves sorted entries where they
stand. -/
namespace Gazette.Json

variable {α : Type} {es : List (String × α)} {key : String}

theorem insert_perm (h : key ∉ es.map Prod.fst) (value : α) :
    (insert key value es).Perm ((key, value) :: es) := by
  induction es with
  | nil => rfl
  | cons e es ih =>
    obtain ⟨k, v⟩ := e
    rw [List.map_cons, List.mem_cons, not_or] at h
    rw [insert, if_neg h.1]
    split
    · rfl
    · exact ((ih h.2).cons _).trans (.swap ..)

theorem collect_perm (h : (es.map Prod.fst).Nodup) : (collect es).Perm es := by
  suffices ∀ acc : List (String × α), ((acc ++ es).map Prod.fst).Nodup →
      (es.foldl (fun acc e => insert e.1 e.2 acc) acc).Perm (acc ++ es) from this [] h
  clear h
  induction es with
  | nil => exact fun acc _ => by simp
  | cons e es ih =>
    intro acc hacc
    have hmoved : (acc ++ e :: es).Perm (e :: acc ++ es) := List.perm_middle
    have hkeys := ((hmoved.map Prod.fst).nodup_iff).1 hacc
    have hfresh : e.1 ∉ acc.map Prod.fst := by
      intro hmem
      exact (List.nodup_cons.1 hkeys).1 (by simp [hmem])
    have hinsert : (insert e.1 e.2 acc ++ es).Perm (e :: acc ++ es) :=
      (insert_perm hfresh e.2).append_right es
    have hrest := ih _ (((hinsert.map Prod.fst).nodup_iff).2 hkeys)
    exact hrest.trans (hinsert.trans hmoved.symm)

theorem mem_of_mem_insert {value : α} {e : String × α} (h : e ∈ insert key value es) :
    e = (key, value) ∨ e ∈ es := by
  induction es with
  | nil => exact .inl (List.mem_singleton.1 h)
  | cons e' es ih =>
    rw [insert] at h
    split at h
    · rcases List.mem_cons.1 h with h | h
      · exact .inl h
      · exact .inr (List.mem_cons_of_mem _ h)
    · split at h
      · exact List.mem_cons.1 h
      · rcases List.mem_cons.1 h with rfl | h
        · exact .inr List.mem_cons_self
        · exact (ih h).imp id (List.mem_cons_of_mem _)

/-- Sorting makes up no entries. -/
theorem mem_of_mem_collect {e : String × α} (h : e ∈ collect es) : e ∈ es := by
  suffices ∀ acc : List (String × α),
      e ∈ es.foldl (fun acc e => insert e.1 e.2 acc) acc → e ∈ acc ∨ e ∈ es from
    (this [] h).resolve_left List.not_mem_nil
  clear h
  induction es with
  | nil => exact fun acc h => .inl h
  | cons e' es ih =>
    intro acc h
    rcases ih _ h with h | h
    · rcases mem_of_mem_insert h with rfl | h
      · exact .inr List.mem_cons_self
      · exact .inl h
    · exact .inr (List.mem_cons_of_mem _ h)

theorem Ascending.collect_eq (h : Ascending es) : collect es = es :=
  (ascending_collect es).ext h fun _ => (collect_perm h.nodup_keys).mem_iff

mutual
/-- The value with the entries of every object in the order of their keys. -/
def sorted : Json → Json
  | .arr items => .arr (sortedItems items)
  | .obj entries => ofEntries (sortedEntries entries)
  | v => v
  termination_by structural v => v
def sortedItems : List Json → List Json
  | [] => []
  | v :: vs => v.sorted :: sortedItems vs
  termination_by structural vs => vs
def sortedEntries : List (String × Json) → List (String × Json)
  | [] => []
  | (key, v) :: es => (key, v.sorted) :: sortedEntries es
  termination_by structural es => es
end

mutual
/-- Whether something holds of a value and of all that is in it. -/
def Throughout (P : Json → Prop) : Json → Prop
  | .arr items => P (.arr items) ∧ ThroughoutItems P items
  | .obj entries => P (.obj entries) ∧ ThroughoutEntries P entries
  | v => P v
  termination_by structural v => v
def ThroughoutItems (P : Json → Prop) : List Json → Prop
  | [] => True
  | v :: vs => v.Throughout P ∧ ThroughoutItems P vs
  termination_by structural vs => vs
def ThroughoutEntries (P : Json → Prop) : List (String × Json) → Prop
  | [] => True
  | (_, v) :: es => v.Throughout P ∧ ThroughoutEntries P es
  termination_by structural es => es
end

/-- An object that gives no two entries one key; other values have no keys. -/
def HasDistinctKeys : Json → Prop
  | .obj entries => (entries.map Prod.fst).Nodup
  | _ => True

/-- No object in a value gives two entries one key. -/
def Distinct (v : Json) : Prop := v.Throughout HasDistinctKeys

section
variable {P : Json → Prop} {v w : Json} {vs : List Json} {es es' : List (String × Json)}

theorem wellFormedItems_iff :
    WellFormedItems vs ↔ ∀ v ∈ vs, v.WellFormed := by
  induction vs with
  | nil => simp [WellFormedItems]
  | cons v vs ih => rw [WellFormedItems, ih, List.forall_mem_cons]

theorem wellFormedEntries_iff :
    WellFormedEntries es ↔ ∀ v ∈ es.map Prod.snd, v.WellFormed := by
  induction es with
  | nil => simp [WellFormedEntries]
  | cons e es ih => rw [WellFormedEntries, ih, List.map_cons, List.forall_mem_cons]

theorem WellFormed.parts (h : v.WellFormed) (hw : w ∈ v.parts) : w.WellFormed := by
  cases v with
  | arr vs => exact wellFormedItems_iff.1 h w hw
  | obj es => exact wellFormedEntries_iff.1 h.2 w hw
  | null | bool _ | int _ | float _ | str _ => cases hw

theorem throughoutItems_iff : ThroughoutItems P vs ↔ ∀ v ∈ vs, v.Throughout P := by
  induction vs with
  | nil => simp [ThroughoutItems]
  | cons v vs ih => rw [ThroughoutItems, ih, List.forall_mem_cons]

theorem throughoutEntries_iff :
    ThroughoutEntries P es ↔ ∀ v ∈ es.map Prod.snd, v.Throughout P := by
  induction es with
  | nil => simp [ThroughoutEntries]
  | cons e es ih => rw [ThroughoutEntries, ih, List.map_cons, List.forall_mem_cons]

theorem throughout_iff : v.Throughout P ↔ P v ∧ ∀ w ∈ v.parts, w.Throughout P := by
  cases v with
  | arr vs => rw [Throughout, throughoutItems_iff]; rfl
  | obj es => rw [Throughout, throughoutEntries_iff]; rfl
  | null | bool _ | int _ | float _ | str _ => simp [Throughout, Json.parts]

theorem sortedEntries_eq : sortedEntries es = es.map fun e => (e.1, e.2.sorted) := by
  induction es with
  | nil => rfl
  | cons e es ih => rw [sortedEntries, ih, List.map_cons]

theorem sortedItems_eq : sortedItems vs = vs.map sorted := by
  induction vs with
  | nil => rfl
  | cons v vs ih => rw [sortedItems, ih, List.map_cons]

theorem keys_sortedEntries : (sortedEntries es).map Prod.fst = es.map Prod.fst := by
  rw [sortedEntries_eq, List.map_map]
  rfl

/-- Sorting an object without repeated keys only moves its entries. -/
theorem collect_sortedEntries_perm (h : (es.map Prod.fst).Nodup) :
    (collect (sortedEntries es)).Perm (sortedEntries es) :=
  collect_perm (by rwa [keys_sortedEntries])

theorem depthEntries_perm (h : es.Perm es') : depthEntries es = depthEntries es' := by
  induction h with
  | nil => rfl
  | cons e _ ih => rw [depthEntries, depthEntries, ih]
  | swap e e' es =>
    simp only [depthEntries]
    omega
  | trans _ _ ih ih' => exact ih.trans ih'

theorem depth_sortedItems (h : ∀ v ∈ vs, v.sorted.depth = v.depth) :
    depthItems (sortedItems vs) = depthItems vs := by
  induction vs with
  | nil => rfl
  | cons v vs ih =>
    obtain ⟨hv, hvs⟩ := List.forall_mem_cons.1 h
    rw [sortedItems, depthItems, depthItems, hv, ih hvs]

theorem depth_sortedEntries (h : ∀ v ∈ es.map Prod.snd, v.sorted.depth = v.depth) :
    depthEntries (sortedEntries es) = depthEntries es := by
  induction es with
  | nil => rfl
  | cons e es ih =>
    obtain ⟨hv, hes⟩ := List.forall_mem_cons.1 h
    rw [sortedEntries, depthEntries, depthEntries, hv, ih hes]

theorem depth_sorted (h : v.Distinct) : v.sorted.depth = v.depth := by
  induction v using Json.walk with
  | step v ih =>
    obtain ⟨hv, hparts⟩ := throughout_iff.1 h
    have hdepth (w : Json) (hw : w ∈ v.parts) : w.sorted.depth = w.depth := ih w hw (hparts w hw)
    cases v with
    | arr vs =>
      have hitems : depthItems (sortedItems vs) = depthItems vs := depth_sortedItems hdepth
      rw [sorted, depth, depth, hitems]
    | obj es =>
      have hperm := depthEntries_perm (collect_sortedEntries_perm hv)
      have hentries : depthEntries (sortedEntries es) = depthEntries es :=
        depth_sortedEntries hdepth
      rw [sorted, ofEntries, depth, depth, hperm, hentries]
    | null | bool _ | int _ | float _ | str _ => rfl

/-- A value in which the entries of every object are in order stays as it is. -/
theorem WellFormed.sorted_eq (h : v.WellFormed) : v.sorted = v := by
  induction v using Json.walk with
  | step v ih =>
    have hparts (w : Json) (hw : w ∈ v.parts) : w.sorted = w := ih w hw (h.parts hw)
    cases v with
    | arr vs =>
      have hitems : vs.map sorted = vs.map id := List.map_congr_left hparts
      rw [sorted, sortedItems_eq, hitems, List.map_id]
    | obj es =>
      have hentries : sortedEntries es = es := by
        have hsame : ∀ e ∈ es, (e.1, e.2.sorted) = id e := by
          intro e he
          rw [hparts e.2 (List.mem_map_of_mem he)]
          rfl
        rw [sortedEntries_eq, List.map_congr_left hsame, List.map_id]
      rw [sorted, ofEntries, hentries, h.1.collect_eq]
    | null | bool _ | int _ | float _ | str _ => rfl

theorem WellFormed.distinct (h : v.WellFormed) : v.Distinct := by
  induction v using Json.walk with
  | step v ih =>
    refine throughout_iff.2 ⟨?_, fun w hw => ih w hw (h.parts hw)⟩
    cases v with
    | obj es => exact h.1.nodup_keys
    | null | bool _ | int _ | float _ | str _ | arr _ => trivial

end

/-- The first value is the second with the entries of its objects in any order. -/
structure Arranges (w v : Json) : Prop where
  distinct : w.Distinct
  sorted_eq : w.sorted = v

theorem WellFormed.arranges {v : Json} (h : v.WellFormed) : v.Arranges v :=
  ⟨h.distinct, h.sorted_eq⟩

theorem Arranges.depth_eq {w v : Json} (h : w.Arranges v) : w.depth = v.depth := by
  rw [← h.sorted_eq, depth_sorted h.distinct]

end Gazette.Json
