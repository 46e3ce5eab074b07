/-! # JSON values

Whole numbers are kept apart from numbers written with a fraction or an exponent. The entries of an
object stand in the order of their keys, each key once; that order is the order of the keys' UTF-8
bytes. -/
namespace Gazette

inductive Json where
  | null
  | bool (b : Bool)
  | int (n : Int)
  | float (x : Float)
  | str (s : String)
  | arr (items : List Json)
  | obj (entries : List (String × Json))
  deriving Inhabited

namespace Json

/-- Puts a value under a key of a sorted list of entries, in the place of an earlier one. -/
def insert {α : Type} (key : String) (value : α) : List (String × α) → List (String × α)
  | [] => [(key, value)]
  | (k, v) :: rest =>
    if key = k then (key, value) :: rest
    else if key < k then (key, value) :: (k, v) :: rest
    else (k, v) :: insert key value rest

/-- Sorts entries by key; the last of several with one key stays. -/
def collect {α : Type} (entries : List (String × α)) : List (String × α) :=
  entries.foldl (fun acc e => insert e.1 e.2 acc) []

def ofEntries (entries : List (String × Json)) : Json := .obj (collect entries)

/-- The value under a key; `none` also for what is no object. -/
def get? (key : String) : Json → Option Json
  | .obj entries => entries.lookup key
  | _ => none

/-- Text, or `null` for none. -/
def ofText? : Option String → Json
  | none => .null
  | some s => .str s

mutual
/-- How many arrays and objects stand inside one another at most. -/
def depth : Json → Nat
  | .arr items => depthItems items + 1
  | .obj entries => depthEntries entries + 1
  | _ => 0
  termination_by structural v => v
def depthItems : List Json → Nat
  | [] => 0
  | v :: vs => max v.depth (depthItems vs)
  termination_by structural vs => vs
def depthEntries : List (String × Json) → Nat
  | [] => 0
  | (_, v) :: es => max v.depth (depthEntries es)
  termination_by structural es => es
end

/-- Strictly ascending keys. -/
def Ascending {α : Type} (entries : List (String × α)) : Prop :=
  entries.Pairwise fun a b => a.1 < b.1

mutual
/-- Every object has ascending keys, and every whole number fits 64 bits, signed or not. -/
def WellFormed : Json → Prop
  | .int n => -0x8000000000000000 ≤ n ∧ n < 0x10000000000000000
  | .arr items => WellFormedItems items
  | .obj entries => Ascending entries ∧ WellFormedEntries entries
  | _ => True
  termination_by structural v => v
def WellFormedItems : List Json → Prop
  | [] => True
  | v :: vs => v.WellFormed ∧ WellFormedItems vs
  termination_by structural vs => vs
def WellFormedEntries : List (String × Json) → Prop
  | [] => True
  | (_, v) :: es => v.WellFormed ∧ WellFormedEntries es
  termination_by structural es => es
end

theorem mem_keys_insert {α : Type} {key k : String} {value : α} {entries : List (String × α)} :
    k ∈ (insert key value entries).map Prod.fst ↔ k = key ∨ k ∈ entries.map Prod.fst := by
  induction entries with
  | nil => simp [insert]
  | cons e rest ih =>
    simp only [insert]
    split
    · rename_i h; simp [h]
    · split
      · simp
      · simp only [List.map_cons, List.mem_cons, ih]; grind

theorem ascending_insert {α : Type} {key : String} {value : α} {entries : List (String × α)}
    (h : Ascending entries) : Ascending (insert key value entries) := by
  induction entries with
  | nil => simp [insert, Ascending]
  | cons e rest ih =>
    obtain ⟨k, v⟩ := e
    obtain ⟨hk, hrest⟩ := List.pairwise_cons.1 h
    simp only [insert]
    split
    · rename_i heq; exact List.pairwise_cons.2 ⟨by rw [heq]; exact hk, hrest⟩
    · split
      · rename_i hne hlt
        refine List.pairwise_cons.2 ⟨?_, h⟩
        intro a ha
        rcases List.mem_cons.1 ha with rfl | ha
        · exact hlt
        · exact String.lt_trans hlt (hk a ha)
      · rename_i hne hlt
        refine List.pairwise_cons.2 ⟨?_, ih hrest⟩
        intro a ha
        have hmem := mem_keys_insert.1 (List.mem_map_of_mem (f := Prod.fst) ha)
        rcases hmem with heq | hmem
        · rw [heq]
          rcases Std.lt_trichotomy key k with h | h | h
          · exact absurd h hlt
          · exact absurd h hne
          · exact h
        · obtain ⟨b, hb, hab⟩ := List.mem_map.1 hmem
          have := hk b hb
          rwa [hab] at this

theorem ascending_collect {α : Type} (entries : List (String × α)) :
    Ascending (collect entries) := by
  unfold collect
  suffices ∀ acc : List (String × α), Ascending acc →
      Ascending (entries.foldl (fun acc e => insert e.1 e.2 acc) acc) from this [] List.Pairwise.nil
  induction entries with
  | nil => exact fun acc h => h
  | cons e es ih => exact fun acc h => ih _ (ascending_insert h)

theorem lookup_insert {α : Type} {key k : String} {value : α} {entries : List (String × α)} :
    (insert key value entries).lookup k = if k = key then some value else entries.lookup k := by
  induction entries with
  | nil => simp only [insert, List.lookup_cons, List.lookup_nil]; grind
  | cons e rest ih =>
    obtain ⟨k', v⟩ := e
    simp only [insert]
    split
    · subst_vars; simp only [List.lookup_cons]; grind
    · split <;> simp only [List.lookup_cons, ih] <;> grind

end Json
end Gazette
