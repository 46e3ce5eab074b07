import Gazette.Tree.Node

/-! # Trees in the order of the text

Every node stands before those below it, and siblings stand in their order. Some nodes leave their
children out; what is not below such a node is visible. -/
namespace Gazette

/-- The kinds that leave their children out. -/
def Kind.hides (kind : Kind) : Bool := kind = .lineBreak || kind = .image || kind = .text

/-- A text with none of some characters. -/
def Without (cs : List Char) (text : String) : Prop := ∀ c ∈ text.toList, c ∉ cs

-- The library also decides what holds of every character there is, which takes far longer.
instance (cs : List Char) (text : String) : Decidable (Without cs text) :=
  List.decidableBAll (fun c => c ∉ cs) text.toList

namespace Node

/-- Induction over trees together with the lists of their children. -/
theorem walk {P : Node → Prop} {Q : List Node → Prop} (node : ∀ n, Q n.children → P n)
    (nil : Q []) (cons : ∀ n ns, P n → Q ns → Q (n :: ns)) : (∀ n, P n) ∧ ∀ ns, Q ns := by
  have tree (n : Node) : P n := by
    refine Node.rec (motive_1 := P) (motive_2 := Q) ?_ nil (fun n ns => cons n ns) n
    intro kind identifier children depth value alt title url code lang label ordered h
    exact node _ h
  have forest (ns : List Node) : Q ns := by
    induction ns with
    | nil => exact nil
    | cons n ns ih => exact cons n ns (tree n) ih
  exact ⟨tree, forest⟩

mutual
def nodes : Node → List Node
  | n@{ children, .. } => n :: nodesAll children
  termination_by structural n => n
def nodesAll : List Node → List Node
  | [] => []
  | n :: ns => n.nodes ++ nodesAll ns
  termination_by structural ns => ns
end

theorem nodes_eq (n : Node) : n.nodes = n :: nodesAll n.children := by cases n; rfl

/-- Whether the identifier stands in the place of the kind. -/
def framed (n : Node) : Bool :=
  n.identifier = some .figure || n.identifier = some .title || n.identifier = some .center

/-- Whether the children of a visible node are visible: a kind with a text of its own hides them,
unless the identifier counts. -/
def shows (n : Node) : Bool := n.framed || !n.kind.hides

mutual
/-- The visible nodes of a tree, the root being one. -/
def visible : Node → List Node
  | n@{ children, .. } => n :: if n.shows then visibleAll children else []
  termination_by structural n => n
def visibleAll : List Node → List Node
  | [] => []
  | n :: ns => n.visible ++ visibleAll ns
  termination_by structural ns => ns
end

theorem visible_eq (n : Node) :
    n.visible = n :: if n.shows then visibleAll n.children else [] := by cases n; rfl

/-- Those of some nodes whose kind counts. -/
def plain (ns : List Node) : List Node := ns.filter fun n => !n.framed

theorem plain_append (ns ms : List Node) : plain (ns ++ ms) = plain ns ++ plain ms :=
  List.filter_append ..

theorem flatMap_plain_append {α : Type} (f : Node → List α) (ns ms : List Node) :
    (plain (ns ++ ms)).flatMap f = (plain ns).flatMap f ++ (plain ms).flatMap f := by
  rw [plain_append, List.flatMap_append]

theorem flatMap_plain_cons {α : Type} (f : Node → List α) (n : Node) (ns : List Node) :
    (plain (n :: ns)).flatMap f = (if n.framed then [] else f n) ++ (plain ns).flatMap f := by
  unfold plain
  cases h : n.framed <;> simp [h]

/-- The texts that a node of its kind puts on the page. -/
def emitted (n : Node) : List String :=
  match n.kind with
  | .text => [n.value]
  | .image => [n.title, n.alt, n.url]
  | .link => [n.url]
  | .zone => (n.identifier.map Identifier.name).toList
  | .unsupported name => [name]
  | _ => []

/-- None of the texts that the nodes emit has one of the characters. -/
def Spared (cs : List Char) (ns : List Node) : Prop :=
  ∀ n ∈ plain ns, ∀ s ∈ n.emitted, Without cs s

instance (cs : List Char) (ns : List Node) : Decidable (Spared cs ns) :=
  inferInstanceAs (Decidable (∀ n ∈ plain ns, ∀ s ∈ n.emitted, Without cs s))

theorem spared_append {cs : List Char} {ns ms : List Node} :
    Spared cs (ns ++ ms) ↔ Spared cs ns ∧ Spared cs ms := by
  rw [Spared, plain_append, List.forall_mem_append]
  rfl

theorem spared_cons {cs : List Char} {n : Node} {ns : List Node} :
    Spared cs (n :: ns) ↔
      (n.framed = false → ∀ s ∈ n.emitted, Without cs s) ∧ Spared cs ns := by
  unfold Spared plain
  cases h : n.framed <;> simp [h]

end Node
end Gazette
