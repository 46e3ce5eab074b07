import Mathlib.Data.List.Forall2
import Gazette.Proofs.Page.Table

/-! # Trees with the same page

Every kind has a use for some fields of a node only, and a frame for none of them but the children.
Trees that agree in what is of use have the same page and the same log, whatever stands in the other
fields and below the nodes that leave their children out. -/
namespace Gazette
namespace Node

/-- Whether two nodes of one kind agree in the fields that the kind has a use for. -/
def Agree (n m : Node) : Prop :=
  match n.kind with
  | .text => n.value = m.value
  | .image => n.title = m.title ∧ n.alt = m.alt ∧ n.url = m.url
  | .heading => n.depth = m.depth
  | .link => n.url = m.url
  | .list => n.ordered = m.ordered
  | .zone => n.zoneName = m.zoneName
  | _ => True

/-- Trees that differ only in fields without a use. A frame counts before the kind, and what a kind
hides does not count. -/
inductive Alike : Node → Node → Prop where
  | framed {n m : Node} (hn : n.framed = true) (hi : n.identifier = m.identifier)
      (hc : List.Forall₂ Alike n.children m.children) : Alike n m
  | leaf {n m : Node} (hn : n.framed = false) (hm : m.framed = false) (hk : n.kind = m.kind)
      (hh : n.kind.hides = true) (ha : n.Agree m) : Alike n m
  | around {n m : Node} (hn : n.framed = false) (hm : m.framed = false) (hk : n.kind = m.kind)
      (hh : n.kind.hides = false) (ha : n.Agree m)
      (hc : List.Forall₂ Alike n.children m.children) : Alike n m

theorem frame?_of_not_framed {n : Node} (h : n.framed = false) : n.frame? = none := by
  rw [framed_eq] at h
  simpa using h

theorem own_of_framed {n m : Node} (hn : n.framed = true) (hi : n.identifier = m.identifier) :
    n.markup = m.markup ∧ n.warning? = m.warning? := by
  have hf : n.frame? = m.frame? := by rw [frame?, hi, frame?]
  obtain ⟨cls, hcls⟩ : ∃ cls, n.frame? = some cls := by
    rw [framed_eq] at hn
    exact Option.isSome_iff_exists.1 hn
  rw [hcls] at hf
  simp [markup, warning?, hcls, ← hf]

theorem own_of_agree {n m : Node} (hn : n.framed = false) (hm : m.framed = false)
    (hk : n.kind = m.kind) (ha : n.Agree m) :
    n.markup = m.markup ∧ n.warning? = m.warning? := by
  have hn' := frame?_of_not_framed hn
  have hm' := frame?_of_not_framed hm
  unfold Agree at ha
  cases h : n.kind with
  | zone =>
    rw [h] at hk ha
    simp [markup, warning?, kindMarkup, ← zoneName_eq, hn', hm', h, ← hk, ha]
  | _ =>
    rw [h] at hk ha
    simp [markup, warning?, kindMarkup, level, hn', hm', h, ← hk, ha]

/-- Alike nodes put the same around their children, or in their place, and warn alike. -/
theorem Alike.own {n m : Node} (h : n.Alike m) :
    n.markup = m.markup ∧ n.warning? = m.warning? := by
  cases h with
  | framed hn hi _ => exact own_of_framed hn hi
  | leaf hn hm hk _ ha => exact own_of_agree hn hm hk ha
  | around hn hm hk _ ha _ => exact own_of_agree hn hm hk ha

theorem Alike.children {n m : Node} (h : n.Alike m) (hs : n.shows = true) :
    List.Forall₂ Alike n.children m.children := by
  cases h with
  | framed _ _ hc => exact hc
  | leaf hn _ _ hh _ => simp [shows, hn, hh] at hs
  | around _ _ _ _ _ hc => exact hc

/-- What is written of alike trees is the same on any page. -/
theorem write_alike :
    (∀ n m : Node, n.Alike m → ∀ p, n.write p = m.write p) ∧
      ∀ ns ms : List Node, List.Forall₂ Alike ns ms → ∀ p, writeAll ns p = writeAll ms p := by
  apply walk
  · intro n ih m h p
    obtain ⟨hmarkup, hwarning⟩ := h.own
    rw [write_eq n, write_eq m, ← hmarkup, ← hwarning]
    rcases markup_cases n with ⟨text, hm, -⟩ | ⟨before, after, hm, hs⟩
    · rw [hm]
    · simp only [hm, ih m.children (h.children hs)]
  · intro ms h p
    cases h
    rfl
  · intro n ns hn hns ms h p
    cases h with
    | cons hm hms => rw [writeAll, writeAll, hn _ hm, hns _ hms]

end Node

theorem Content.page_of_alike {c d : Content} (h : List.Forall₂ Node.Alike c.children d.children) :
    c.page = d.page :=
  Node.write_alike.2 _ _ h {}

theorem ArticleReply.page_of_alike {r s : ArticleReply}
    (h : List.Forall₂ Node.Alike r.article.content.children s.article.content.children) :
    r.page = s.page := by
  unfold page
  rw [Node.write_alike.2 _ _ h]

/-- Alike trees have the same page and the same log, and so have contents and articles with alike
nodes, whatever is known of them besides. -/
theorem same_page_of_alike :
    (∀ n m : Node, n.Alike m → n.html = m.html ∧ n.page.log = m.page.log) ∧
      (∀ c d : Content, List.Forall₂ Node.Alike c.children d.children →
        c.html = d.html ∧ c.page.log = d.page.log) ∧
      (∀ a b : Article, List.Forall₂ Node.Alike a.content.children b.content.children →
        a.html = b.html ∧ a.page.log = b.page.log) ∧
      ∀ r s : ArticleReply,
        List.Forall₂ Node.Alike r.article.content.children s.article.content.children →
          r.html = s.html ∧ r.page.log = s.page.log := by
  refine ⟨?_, ?_, ?_, ?_⟩
  · intro n m h
    have hp : n.page = m.page := Node.write_alike.1 n m h {}
    exact ⟨congrArg Page.text hp, congrArg Page.log hp⟩
  · intro c d h
    have hp := Content.page_of_alike h
    exact ⟨congrArg Page.text hp, congrArg Page.log hp⟩
  · intro a b h
    have hp : a.page = b.page := Content.page_of_alike h
    exact ⟨congrArg Page.text hp, congrArg Page.log hp⟩
  · intro r s h
    have hp := ArticleReply.page_of_alike h
    exact ⟨congrArg Page.text hp, congrArg Page.log hp⟩

/-- A frame over a heading of no level, a break, a code block and a zone. -/
def Node.bare : Node :=
  { kind := .zone, identifier := some .title, children := [
    .heading 9 [.text "a"],
    .ofKind .lineBreak,
    { kind := .code, children := [.ofKind .zone] }] }

/-- The same with letters in every place that is not read. -/
def Node.stuffed : Node :=
  { kind := .unsupported "html", identifier := some .title, value := "<b>", children := [
    { kind := .heading, depth := 9, url := "/a", identifier := some (.other "NOTE"), children := [
      { kind := .text, value := "a", title := "b", children := [.text "<hidden>"] }] },
    { kind := .lineBreak, children := [.ofKind (.unsupported "script")] },
    { kind := .code, code := "x = 1", lang := "c", label := "l", children := [
      { kind := .zone, identifier := some (.other ""), ordered := true }] }] }

theorem same_page_of_alike_bare :
    (Node.bare.Alike Node.stuffed ∧ Node.bare.html = Node.stuffed.html ∧
        Node.bare.page.log = Node.stuffed.page.log) ∧
      List.Forall₂ Node.Alike [Node.bare] [Node.stuffed] ∧
        Content.html { kind := "root", children := [Node.bare] } =
          Content.html { children := [Node.stuffed] } ∧
        Article.html { id := "1", content := { children := [Node.bare] } } =
          Article.html { content := { children := [Node.stuffed] } } ∧
        ArticleReply.html { article := { content := { children := [Node.bare] } } } =
          ArticleReply.html { article := { content := { children := [Node.stuffed] } } } := by
  have hzone : Node.Alike (.ofKind .zone)
      { kind := .zone, identifier := some (.other ""), ordered := true } :=
    .around rfl rfl rfl rfl rfl .nil
  have htext : Node.Alike (.text "a")
      { kind := .text, value := "a", title := "b", children := [.text "<hidden>"] } :=
    .leaf rfl rfl rfl rfl rfl
  have hone : Node.bare.Alike Node.stuffed := by
    refine .framed rfl rfl (.cons ?heading (.cons ?lineBreak (.cons ?code .nil)))
    case heading => exact .around rfl rfl rfl rfl rfl (.cons htext .nil)
    case lineBreak => exact .leaf rfl rfl rfl rfl trivial
    case code => exact .around rfl rfl rfl rfl trivial (.cons hzone .nil)
  have hlist : List.Forall₂ Node.Alike [Node.bare] [Node.stuffed] := .cons hone .nil
  exact ⟨⟨hone, same_page_of_alike.1 _ _ hone⟩, hlist, (same_page_of_alike.2.1 _ _ hlist).1,
    (same_page_of_alike.2.2.1 _ _ hlist).1, (same_page_of_alike.2.2.2 _ _ hlist).1⟩

end Gazette
