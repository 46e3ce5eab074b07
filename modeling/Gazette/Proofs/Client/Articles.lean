import Gazette.Proofs.Client.Answers
import Gazette.Proofs.Page.Alike
import Gazette.Proofs.Wire.Documents

/-! # Articles as they are fetched

An article arrives in its canonical form. That form has the page of the article itself, unless a
name in it stands for a kind or a frame: an empty identifier gets lost on the way, but shows
nowhere. -/
namespace Gazette
namespace Node

/-- A node whose page changes when it is taken for what its names say. -/
def Misnamed (n : Node) : Prop :=
  n.kind.Disguised ∨
    ∃ name, n.identifier = some (.other name) ∧ name ∈ Identifier.frameNames.map Prod.fst

section
variable {n : Node}

/-- The identifier of a canonical node is the one it had, or it had an empty one. -/
theorem identifier_canonical_cases (h : ¬ n.Misnamed) :
    n.canonical.identifier = n.identifier ∨
      n.identifier = some (.other "") ∧ n.canonical.identifier = none := by
  rw [canonical_eq]
  cases hi : n.identifier with
  | none => exact .inl rfl
  | some i =>
    by_cases hd : i.Disguised
    · obtain ⟨name, rfl, hname | rfl⟩ := hd
      · exact absurd (.inr ⟨name, hi, hname⟩) h
      · exact .inr ⟨rfl, rfl⟩
    · exact .inl ((Identifier.canonical_eq_self_iff i).2 hd)

theorem framed_canonical (h : ¬ n.Misnamed) : n.canonical.framed = n.framed := by
  rcases identifier_canonical_cases h with hi | ⟨hempty, hnone⟩
  · rw [framed, framed, hi]
  · simp [framed, hempty, hnone]

theorem zoneName_canonical (h : ¬ n.Misnamed) : n.canonical.zoneName = n.zoneName := by
  rcases identifier_canonical_cases h with hi | ⟨hempty, hnone⟩
  · rw [zoneName, zoneName, hi]
  · simp [zoneName, hempty, hnone, Identifier.name]

theorem kind_canonical (h : ¬ n.Misnamed) : n.canonical.kind = n.kind := by
  rw [canonical_eq]
  exact (Kind.canonical_eq_self_iff n.kind).2 fun hd => h (.inl hd)

theorem agree_canonical (h : ¬ n.Misnamed) : n.Agree n.canonical := by
  unfold Agree
  cases n.kind with
  | zone => exact (zoneName_canonical h).symm
  | _ => simp [canonical_eq]

end

/-- A tree with no misnamed node is like its canonical form. -/
theorem alike_canonical :
    (∀ n : Node, (∀ m ∈ n.nodes, ¬ m.Misnamed) → n.Alike n.canonical) ∧
      ∀ ns : List Node, (∀ m ∈ nodesAll ns, ¬ m.Misnamed) →
        List.Forall₂ Alike ns (canonicalAll ns) := by
  apply walk
  · intro n ih h
    rw [nodes_eq, List.forall_mem_cons] at h
    obtain ⟨hn, hbelow⟩ := h
    have hchildren : List.Forall₂ Alike n.children n.canonical.children := by
      rw [canonical_eq]
      exact ih hbelow
    have hframed := framed_canonical hn
    have hkind := (kind_canonical hn).symm
    cases hf : n.framed with
    | true =>
      rcases identifier_canonical_cases hn with hi | ⟨hempty, -⟩
      · exact .framed hf hi.symm hchildren
      · simp [framed, hempty] at hf
    | false =>
      rw [hf] at hframed
      cases hh : n.kind.hides with
      | true => exact .leaf hf hframed hkind hh (agree_canonical hn)
      | false => exact .around hf hframed hkind hh (agree_canonical hn) hchildren
  · exact fun _ => .nil
  · intro n ns hn hns h
    rw [nodesAll, List.forall_mem_append] at h
    exact .cons (hn h.1) (hns h.2)

end Node

theorem Found.read_sent (r : ArticleReply) :
    Wire.Schema.found.read r.toJson = .ok { article := some r.article.canonical } :=
  Wire.Schema.read_single rfl rfl rfl (Wire.read_article r.article) rfl rfl

/-- What is fetched is the article that is sent, with every node taken for what its names say. If no
node is misnamed, the page and its warnings are those of the article itself. -/
theorem fetchArticle_sent {c : Client} {r : ArticleReply} {exchange : Exchange} {path : String}
    {logged : List Event}
    (h : exchange (c.articleRequest path) = (.ok (.obj [("data", r.toJson)]), logged)) :
    (c.fetchArticle exchange path).result = .ok r.canonical ∧
      ((∀ n ∈ Node.nodesAll r.article.content.children, ¬ n.Misnamed) →
        (c.articleHtml exchange path).result = r.html ∧
          (c.articleHtml exchange path).events =
            .fetchingArticle path :: (logged ++ Event.ofWarnings r.page.warnings.toList)) := by
  have hask := Client.ask_data (by simp [ArticleReply.toJson]) (Found.read_sent r) h
  have hfetch := Client.fetchArticle_of_data hask
  refine ⟨congrArg Outcome.result hfetch, ?_⟩
  intro hnames
  have hpage : r.page = r.canonical.page :=
    ArticleReply.page_of_alike (Node.alike_canonical.2 _ hnames)
  rw [Client.articleHtml, hfetch, ArticleReply.html, hpage]
  exact ⟨rfl, rfl⟩

/-- An article with an empty identifier, which gets lost, above what calls for warnings. -/
def ArticleReply.anonymous : ArticleReply where
  article := {
    id := "a"
    info := { audioSource := some {}, readingMinutes := 4294967295 }
    content := { kind := "root", children := [
      { kind := .zone, identifier := some (.other ""), children := [.heading 9 []] },
      { kind := .unsupported "html", identifier := some .figure, value := "<p>" },
      { kind := .unsupported "html", identifier := some (.other "NOTE"), code := "<p>" }] } }

theorem fetchArticle_sent_anonymous :
    let c : Client := { config := { sessionId := "s" } }
    let exchange : Exchange := fun _ =>
      (.ok (.obj [("data", ArticleReply.anonymous.toJson)]), [.received 9])
    (c.fetchArticle exchange "/a").result = .ok ArticleReply.anonymous.canonical ∧
      ArticleReply.anonymous.canonical ≠ .anonymous ∧
      (∀ n ∈ Node.nodesAll ArticleReply.anonymous.article.content.children, ¬ n.Misnamed) ∧
      (c.articleHtml exchange "/a").result = ArticleReply.anonymous.html ∧
      (c.articleHtml exchange "/a").events = [.fetchingArticle "/a", .received 9,
        .warning (.headingDepth 9), .warning (.unsupported "html")] := by
  intro c exchange
  have h : exchange (c.articleRequest "/a") =
      (.ok (.obj [("data", ArticleReply.anonymous.toJson)]), [.received 9]) := rfl
  have hnames : ∀ n ∈ Node.nodesAll ArticleReply.anonymous.article.content.children,
      ¬ n.Misnamed := by
    simp [ArticleReply.anonymous, Node.nodesAll, Node.nodes, Node.heading, Node.Misnamed,
      Kind.Disguised, Kind.recognised, Kind.supported, Kind.name, Identifier.frameNames,
      Identifier.frames, Identifier.name]
  obtain ⟨hfetch, hpage⟩ := fetchArticle_sent h
  exact ⟨hfetch, by decide, hnames, hpage hnames⟩

end Gazette
