import Gazette.Proofs.Page.Table

/-! # Rows of the table

How a property of texts is shown of all pages: row by row, and for the rows of most kinds at once. -/
namespace Gazette.Node

/-- The names of the tags without attributes that stand around children. -/
def elements : List String :=
  ["blockquote", "em", "h1", "h2", "h3", "h4", "h5", "h6", "code", "ol", "ul", "li", "p", "strong",
   "sub", "sup", "span"]

theorem headingName_mem (n : Node) : "h" ++ toString n.headingLevel ∈ elements := by
  have hlevel : n.headingLevel ∈ ([1, 2, 3, 4, 5, 6] : List Int) := by
    unfold headingLevel
    simp only [List.mem_cons, List.not_mem_nil, or_false]
    split <;> omega
  have hall : ∀ level ∈ ([1, 2, 3, 4, 5, 6] : List Int), "h" ++ toString level ∈ elements := by
    decide
  exact hall _ hlevel

theorem element_eq (name content : String) : element name content =
    "<" ++ name ++ ">" ++ (" " ++ content ++ " ") ++ ("<" ++ ("/" ++ name) ++ ">") := by
  apply String.toList_injective
  simp [element]

theorem container_eq (cls content : String) : container cls content =
    "<div class=\"" ++ cls ++ "\">" ++ (" " ++ content ++ " ") ++ "</div>" := by
  apply String.toList_injective
  simp [container]

theorem row_of_framed {n : Node} (h : n.framed = true) :
    ∃ cls ∈ ["figure", "title", "center"], ∀ children, n.row children = container cls children := by
  unfold framed at h
  rcases hi : n.identifier with _ | _ | _ | _ | name
  case none => simp [hi] at h
  case some.other => simp [hi] at h
  all_goals simp [row, hi]

theorem row_of_not_framed {n : Node} (h : n.framed = false) (children : String) :
    n.row children = n.kindRow children := by
  unfold framed at h
  rcases hi : n.identifier with _ | _ | _ | _ | name
  case none => simp [row, hi]
  case some.other => simp [row, hi]
  all_goals simp [hi] at h

/-- What holds of every row, if it holds of the text in it, holds of the texts of trees. The nodes
that a text comes from are given with it; their emitted texts are without the characters `cs`. -/
theorem table_rows {cs : List Char} {R : List Node → String → Prop} (nil : R [] "")
    (line : R [] "\n")
    (append : ∀ ns ms s t, R ns s → R ms t → R (ns ++ ms) (s ++ t))
    (frame : ∀ n ns cls s, n.framed = true → cls ∈ ["figure", "title", "center"] → R ns s →
      R (n :: ns) (container cls s))
    (kind : ∀ n ns s, n.framed = false → (∀ t ∈ n.emitted, Without cs t) →
      (n.kind.hides = true → ns = []) → (n.kind.hides = false → R ns s) →
      R (n :: ns) (n.kindRow s)) :
    (∀ n : Node, Spared cs n.visible → R n.visible n.table) ∧
      ∀ ns : List Node, Spared cs (visibleAll ns) → R (visibleAll ns) (tableAll ns) := by
  apply walk
  · intro n ih h
    rw [table_eq]
    cases hf : n.framed with
    | true =>
      have hs : n.shows = true := by simp [shows, hf]
      rw [visible_around hs] at h ⊢
      have hchildren := ih ((spared_cons.1 h).2)
      obtain ⟨cls, hcls, hrow⟩ := row_of_framed hf
      rw [hrow]
      exact frame n _ cls _ hf hcls hchildren
    | false =>
      have hs : n.shows = !n.kind.hides := by simp [shows, hf]
      rw [row_of_not_framed hf]
      -- Only a kind that shows its children says something about them.
      rw [visible_eq, hs] at h ⊢
      obtain ⟨hown, hrest⟩ := spared_cons.1 h
      apply kind n _ _ hf (hown hf)
      · intro hk
        simp [hk]
      · intro hk
        rw [hk] at hrest ⊢
        exact ih hrest
  · exact fun _ => nil
  · intro n ns hn hns h
    rw [visibleAll, spared_append] at h
    rw [visibleAll, tableAll]
    have hline := append _ _ _ _ (hn h.1) line
    rw [List.append_nil] at hline
    exact append _ _ _ _ hline (hns h.2)

end Gazette.Node
