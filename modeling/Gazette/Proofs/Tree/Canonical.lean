import Gazette.Proofs.Tree.Traversal

/-! # Canonical trees

A kind or an identifier can be kept as a mere name although the name has a meaning of its own, and
an empty name can stand where no identifier does. A tree is canonical if no node of it is disguised
in one of these ways. -/
namespace Gazette

theorem lookup_named {α : Type} (name : α → String) (key : String) (xs : List α) :
    (xs.map fun x => (name x, x)).lookup key = xs.find? fun x => name x = key := by
  induction xs with
  | nil => rfl
  | cons x xs ih =>
    rw [List.map_cons, List.lookup_cons, List.find?_cons, ih]
    by_cases h : name x = key
    · simp [h]
    · have h' : (key == name x) = false := by simpa using Ne.symm h
      simp [h, h']

theorem mem_of_lookup {α : Type} {key : String} {x : α} {entries : List (String × α)}
    (h : entries.lookup key = some x) : (key, x) ∈ entries := by
  obtain ⟨before, after, rfl, -⟩ := List.lookup_eq_some_iff.1 h
  simp

theorem mem_keys_iff {α : Type} {key : String} {entries : List (String × α)} :
    key ∈ entries.map Prod.fst ↔ ∃ x, entries.lookup key = some x := by
  rw [← Option.isSome_iff_exists, List.lookup_isSome_iff]
  simp

namespace Kind

/-- The names with a meaning, that of older documents among them. -/
def recognised : List (String × Kind) :=
  ("inlinecode", .inlineCode) :: supported.map fun kind => (kind.name, kind)

def canonical : Kind → Kind
  | .unsupported name => (recognised.lookup name).getD (.unsupported name)
  | kind => kind

/-- A recognised name kept as unsupported. -/
def Disguised (kind : Kind) : Prop :=
  ∃ name, kind = .unsupported name ∧ name ∈ recognised.map Prod.fst

theorem canonical_unsupported (name : String) : (unsupported name).canonical = ofName name := by
  change (recognised.lookup name).getD _ = _
  unfold recognised ofName
  rw [List.lookup_cons, lookup_named]
  by_cases h : name = "inlinecode"
  · simp [h]
  · have h' : (name == "inlinecode") = false := by simpa using h
    simp [h, h']

theorem canonical_of_mem {kind : Kind} (h : kind ∈ supported) : kind.canonical = kind := by
  cases kind with
  | unsupported name => simp [supported] at h
  | _ => rfl

theorem canonical_ofName (name : String) : (ofName name).canonical = ofName name := by
  rcases ofName_eq_or name with h | h
  · exact canonical_of_mem h
  · rw [h, canonical_unsupported, h]

theorem canonical_eq_self_iff (kind : Kind) : kind.canonical = kind ↔ ¬ kind.Disguised := by
  cases kind with
  | unsupported name =>
    have hforms : (unsupported name).Disguised ↔ ∃ kind, recognised.lookup name = some kind := by
      rw [← mem_keys_iff]
      simp [Disguised]
    rw [hforms, canonical]
    cases h : recognised.lookup name with
    | none => simp
    | some kind =>
      -- No recognised name means an unsupported kind, so the lookup has changed the kind.
      have hvalues : ∀ e ∈ recognised, e.2 ∈ supported := by decide
      have hkind : kind ∈ supported := hvalues _ (mem_of_lookup h)
      have hne : kind ≠ unsupported name := by
        rintro rfl
        simp [supported] at hkind
      simp [hne]
  | _ => simp [canonical, Disguised]

end Kind

namespace Identifier

def frameNames : List (String × Identifier) := frames.map fun i => (i.name, i)

/-- No identifier for an empty name. -/
def canonical : Identifier → Option Identifier
  | .other name => if name = "" then none else some ((frameNames.lookup name).getD (.other name))
  | i => some i

/-- The name of a frame kept as another name, or an empty name. -/
def Disguised (i : Identifier) : Prop :=
  ∃ name, i = .other name ∧ (name ∈ frameNames.map Prod.fst ∨ name = "")

theorem ofName_eq_lookup (name : String) :
    ofName name = (frameNames.lookup name).getD (.other name) := by
  unfold ofName frameNames
  rw [lookup_named]

theorem canonical_other {name : String} (h : name ≠ "") :
    (other name).canonical = some (ofName name) := by
  rw [canonical, if_neg h, ofName_eq_lookup]

theorem lookup_mem_frames {name : String} {i : Identifier} (h : frameNames.lookup name = some i) :
    i ∈ frames := by
  have hvalues : ∀ e ∈ frameNames, e.2 ∈ frames := by decide
  exact hvalues _ (mem_of_lookup h)

theorem canonical_ofName {name : String} (h : name ≠ "") :
    (ofName name).canonical = some (ofName name) := by
  have hframe : ∀ i ∈ frames, i.canonical = some i := by decide
  rw [ofName_eq_lookup]
  cases hl : frameNames.lookup name with
  | none => simp [canonical, h, hl]
  | some i => exact hframe i (lookup_mem_frames hl)

theorem canonical_eq_self_iff (i : Identifier) : i.canonical = some i ↔ ¬ i.Disguised := by
  cases i with
  | other name =>
    have hforms : (other name).Disguised ↔
        (∃ i, frameNames.lookup name = some i) ∨ name = "" := by
      rw [← mem_keys_iff]
      simp [Disguised]
    rw [hforms, canonical]
    by_cases he : name = ""
    · simp [he]
    cases hl : frameNames.lookup name with
    | none => simp [he]
    | some i =>
      have hi : i ∈ frames := lookup_mem_frames hl
      have hne : i ≠ other name := by
        rintro rfl
        simp [frames] at hi
      simp [he, hne]
  | _ => simp [canonical, Disguised]

end Identifier

namespace Node

mutual
/-- The tree with every node taken for what its names say. -/
def canonical : Node → Node
  | n@{ kind, identifier, children, .. } =>
    { n with
      kind := kind.canonical
      identifier := identifier.bind Identifier.canonical
      children := canonicalAll children }
  termination_by structural n => n
def canonicalAll : List Node → List Node
  | [] => []
  | n :: ns => n.canonical :: canonicalAll ns
  termination_by structural ns => ns
end

/-- A node whose kind or identifier is kept under a name that means something else. -/
def Disguised (n : Node) : Prop := n.kind.Disguised ∨ ∃ i, n.identifier = some i ∧ i.Disguised

theorem canonical_eq (n : Node) : n.canonical =
    { n with
      kind := n.kind.canonical
      identifier := n.identifier.bind Identifier.canonical
      children := canonicalAll n.children } := by cases n; rfl

theorem identifier_canonical_iff (identifier : Option Identifier) :
    identifier.bind Identifier.canonical = identifier ↔
      ¬ ∃ i, identifier = some i ∧ i.Disguised := by
  cases identifier with
  | none => simp
  | some i => simp [Identifier.canonical_eq_self_iff]

theorem canonical_eq_self_parts (n : Node) : n.canonical = n ↔
    n.kind.canonical = n.kind ∧ n.identifier.bind Identifier.canonical = n.identifier ∧
      canonicalAll n.children = n.children := by
  rw [canonical_eq]
  cases n
  simp

/-- A tree is its own canonical form if no node of it is disguised. -/
theorem canonical_eq_self :
    (∀ n : Node, n.canonical = n ↔ ∀ m ∈ n.nodes, ¬ m.Disguised) ∧
      ∀ ns : List Node, canonicalAll ns = ns ↔ ∀ m ∈ nodesAll ns, ¬ m.Disguised := by
  apply walk
  · intro n ih
    rw [canonical_eq_self_parts, Kind.canonical_eq_self_iff, identifier_canonical_iff, ih,
      nodes_eq, List.forall_mem_cons, Disguised, not_or, and_assoc]
  · simp [canonicalAll, nodesAll]
  · intro n ns hn hns
    rw [canonicalAll, nodesAll, List.cons_eq_cons, hn, hns, List.forall_mem_append]

end Node
end Gazette
