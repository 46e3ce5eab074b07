import Gazette.Proofs.Tree.Canonical
import Gazette.Proofs.Wire.ReadLaws
import Gazette.Wire.Write

/-! # Trees written and read again

Reading what has been written gives the canonical tree, and whatever can be read is canonical. -/
namespace Gazette.Wire

theorem read_kind (kind : Kind) : Schema.kind.read (.str kind.name) = .ok kind.canonical := by
  change Except.ok (Kind.ofName kind.name) = _
  cases kind with
  | unsupported name => rw [Kind.canonical_unsupported]; rfl
  | _ => rfl

theorem read_int64 (x : Int64) : (Schema.integer .int64).read (.int x.toInt) = .ok x := by
  change Width.read .int64 x.toInt = _
  rw [Width.read, Width.ofInt?_int64]

theorem identifier_of_name (i : Identifier) :
    (if i.name = "" then none else some (Identifier.ofName i.name)) = i.canonical := by
  cases i with
  | other name =>
    by_cases h : name = ""
    · simp [Identifier.name, Identifier.canonical, h]
    · rw [Identifier.canonical_other h, Identifier.name, if_neg h]
  | _ => rfl

/-- The entry of an identifier, if there is one, gives its canonical form. -/
theorem readEntries_identifier (identifier : Option Identifier) (es : List (String × Json))
    (n : Node) (h : n.identifier = none) :
    readEntries .node Record.node (Node.identifierEntry identifier ++ es) n =
      readEntries .node Record.node es
        { n with identifier := identifier.bind Identifier.canonical } := by
  cases identifier with
  | none =>
    cases n
    cases h
    rfl
  | some i =>
    change readEntries .node Record.node (("identifier", .str i.name) :: es) n = _
    have hi : (some i).bind Identifier.canonical = _ := (identifier_of_name i).symm
    rw [readEntries_field rfl rfl rfl, hi]

/-- Every entry of a written node is read into the field it comes from. -/
theorem read_node (n : Node)
    (h : readItems .node (Node.toItems n.children) = .ok (Node.canonicalAll n.children)) :
    Schema.node.read n.toJson = .ok n.canonical := by
  obtain ⟨kind, identifier, children, depth, value, alt, title, url, code, lang, label, ordered⟩ := n
  have hc : (Schema.list .node).read (.arr (Node.toItems children)) =
      .ok (Node.canonicalAll children) := h
  rw [Node.toJson, Schema.read_obj rfl]
  simp only [List.cons_append, List.nil_append]
  -- One step for every entry, in the order of the keys.
  rw [readEntries_field rfl rfl rfl, readEntries_field rfl rfl hc, readEntries_field rfl rfl rfl,
    readEntries_field rfl rfl (read_int64 depth), readEntries_identifier identifier _ _ rfl,
    readEntries_field rfl rfl rfl, readEntries_field rfl rfl rfl, readEntries_field rfl rfl rfl,
    readEntries_field rfl rfl rfl, readEntries_field rfl rfl (read_kind kind),
    readEntries_field rfl rfl rfl, readEntries_field rfl rfl rfl]
  rfl

theorem read_written :
    (∀ n : Node, Schema.node.read n.toJson = .ok n.canonical) ∧
      ∀ ns : List Node, readItems .node (Node.toItems ns) = .ok (Node.canonicalAll ns) := by
  apply Node.walk
  · exact read_node
  · rfl
  · intro n ns hn hns
    rw [Node.toItems, readItems, hn, hns]
    rfl

theorem read_kind_cases {v : Json} {kind : Kind} (h : Schema.kind.read v = .ok kind) :
    ∃ name, kind = .ofName name := by
  cases v with
  | str name => cases h; exact ⟨name, rfl⟩
  | null | bool _ | int _ | float _ | arr _ | obj _ => cases h

/-- No field of a node takes a canonical tree out of its form. -/
theorem canonical_put {f : Field Node} (hf : f ∈ Record.node.fields) {v : Json}
    {y : f.schema.Carrier} (hy : f.schema.read v = .ok y)
    (hc : ∀ ns, (Schema.list .node).read v = .ok ns → Node.canonicalAll ns = ns)
    {x : Node} (hx : x.canonical = x) : (f.put y x).canonical = f.put y x := by
  obtain ⟨hkind, hident, hchildren⟩ := (Node.canonical_eq_self_parts x).1 hx
  rw [Node.canonical_eq_self_parts]
  simp only [Record.node, List.mem_cons, List.not_mem_nil, or_false] at hf
  rcases hf with rfl | rfl | rfl | rfl | rfl | rfl | rfl | rfl | rfl | rfl | rfl | rfl
  -- Kind, identifier and children change the form; no other field enters it.
  · obtain ⟨name, rfl⟩ := read_kind_cases hy
    exact ⟨Kind.canonical_ofName name, hident, hchildren⟩
  · refine ⟨hkind, ?_, hchildren⟩
    by_cases h : y = ""
    · simp [h]
    · simp [h, Identifier.canonical_ofName h]
  · exact ⟨hkind, hident, hc y hy⟩
  all_goals exact ⟨hkind, hident, hchildren⟩

theorem canonicalAll_of_readItems {vs : List Json}
    (h : ∀ v ∈ vs, ∀ n, Schema.node.read v = .ok n → n.canonical = n) {ns : List Node}
    (hv : readItems .node vs = .ok ns) : Node.canonicalAll ns = ns := by
  induction vs generalizing ns with
  | nil => cases hv; rfl
  | cons v vs ih =>
    obtain ⟨n, ms, hn, hms, rfl⟩ := readItems_cons_cases hv
    have hrest := ih (fun w hw => h w (List.mem_cons_of_mem v hw)) hms
    rw [Node.canonicalAll, h v List.mem_cons_self n hn, hrest]

/-- Whatever is read as a tree, or as a list of trees, is canonical. -/
theorem canonical_of_read (v : Json) :
    (∀ n, Schema.node.read v = .ok n → Node.canonical n = n) ∧
      ∀ ns, (Schema.list .node).read v = .ok ns → Node.canonicalAll ns = ns := by
  -- A tree can stand below a list and a list below a tree, so both are carried along.
  induction v using Json.walk with
  | step v ih =>
    constructor
    · intro n hn
      rcases Schema.read_record_cases rfl hn with ⟨es, rfl, h⟩ | ⟨vs, rfl, h⟩
      · refine readEntries_keeps (I := fun n => Node.canonical n = n) ?_ h rfl
        intro e he f hf y x hy
        exact canonical_put hf hy (ih e.2 (List.mem_map_of_mem he)).2
      · refine readFields_keeps (I := fun n => Node.canonical n = n) ?_ h rfl
        intro w hw f hf y x hy
        exact canonical_put hf hy (ih w hw).2
    · intro ns hns
      obtain ⟨vs, rfl, h⟩ := Schema.read_list_cases hns
      exact canonicalAll_of_readItems (fun w hw => (ih w hw).1) h

/-- A written tree is read as its canonical form; the trees that come back as they were are exactly
those without a disguised node. Everything read has come into this form already, so that writing it
and reading it once more changes nothing. -/
theorem read_toJson_canonical :
    (∀ n : Node, Schema.node.read n.toJson = .ok n.canonical) ∧
      (∀ n : Node, Schema.node.read n.toJson = .ok n ↔ ∀ m ∈ n.nodes, ¬ m.Disguised) ∧
      ∀ (v : Json) (n : Node), Schema.node.read v = .ok n →
        n.canonical = n ∧ Schema.node.read n.toJson = Schema.node.read v := by
  refine ⟨read_written.1, ?_, ?_⟩
  · intro n
    rw [read_written.1, Except.ok.injEq, Node.canonical_eq_self.1]
  · intro v n hv
    have hn : n.canonical = n := (canonical_of_read v).1 n hv
    exact ⟨hn, by rw [read_written.1, hn, hv]⟩

/-- A value with an older name and an empty identifier below a frame. -/
theorem read_toJson_canonical_older :
    let v : Json := .obj [("children", .arr [.obj [("identifier", .str ""),
      ("type", .str "inlinecode")]]), ("identifier", .str "TITLE"), ("type", .str "zone")]
    let n : Node := { kind := .zone, identifier := some .title, children := [.ofKind .inlineCode] }
    Schema.node.read v = .ok n ∧ n.canonical = n ∧
      Schema.node.read n.toJson = Schema.node.read v := by
  intro v n
  have hv : Schema.node.read v = .ok n := rfl
  exact ⟨hv, read_toJson_canonical.2.2 v n hv⟩

end Gazette.Wire
