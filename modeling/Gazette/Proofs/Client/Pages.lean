import Gazette.Proofs.Client.Answers
import Gazette.Proofs.Page.Table

/-! # Pages and the placeholder

What is shown at a path is the page of the article that is fetched, or else the placeholder. No page
can be taken for it, since a page begins with its frame, and the log says which of them it is. -/
namespace Gazette

/-- What is shown for what was fetched at a path, and what the log says of it. -/
inductive Shown (path : String) :
    Except Fault ArticleReply → String → List (Level × String × List (String × Json)) → Prop
  | page (r : ArticleReply) : Shown path (.ok r) r.html
      (Node.logOf (Node.visibleAll r.article.content.children))
  | placeholder (f : Fault) : Shown path (.error f) "<p>Fetching article failed </p>"
      [(.error, "Fetching article " ++ path ++ " failed with error " ++ f.message, [])]

theorem Node.level_logOf {ns : List Node} {entry : Level × String × List (String × Json)}
    (h : entry ∈ logOf ns) : entry.1 = .warn := by
  obtain ⟨n, -, hentry⟩ := List.mem_flatMap.1 h
  unfold logEntries at hentry
  split at hentry
  · split at hentry
    · cases hentry
    · rw [List.mem_singleton.1 hentry]
  · rw [List.mem_singleton.1 hentry]
  · cases hentry

theorem ArticleReply.html_ne_placeholder (r : ArticleReply) : r.html ≠ placeholder := by
  intro h
  have htext := congrArg String.toList h
  rw [html_eq, String.toList_append, String.toList_append] at htext
  -- Behind the opening bracket stands the name of the element.
  have hname := congrArg (·[1]?) htext
  simp [placeholder] at hname

namespace Shown

variable {path text : String} {fetched : Except Fault ArticleReply}
  {log : List (Level × String × List (String × Json))}

theorem placeholder_iff (h : Shown path fetched text log) :
    text = Gazette.placeholder ↔ ∃ f, fetched = .error f := by
  cases h with
  | page r =>
    constructor
    · exact fun htext => absurd htext r.html_ne_placeholder
    · rintro ⟨f, hf⟩
      cases hf
  | placeholder f => exact ⟨fun _ => ⟨f, rfl⟩, fun _ => rfl⟩

theorem error_iff (h : Shown path fetched text log) :
    (∃ entry ∈ log, entry.1 = .error) ↔ ∃ f, fetched = .error f := by
  cases h with
  | page r =>
    constructor
    · rintro ⟨entry, hmem, hlevel⟩
      rw [Node.level_logOf hmem] at hlevel
      cases hlevel
    · rintro ⟨f, hf⟩
      cases hf
  | placeholder f => exact ⟨fun _ => ⟨f, rfl⟩, fun _ => ⟨_, List.mem_cons_self, rfl⟩⟩

end Shown

namespace Client

variable (c : Client) (exchange : Exchange) (path : String)

theorem shown_articleHtml : ∃ own : List Event,
    (c.articleHtml exchange path).events =
      .fetchingArticle path :: ((exchange (c.articleRequest path)).2 ++ own) ∧
    Shown path (c.fetchArticle exchange path).result (c.articleHtml exchange path).result
      (own.map Event.entry) := by
  cases hfetched : (c.fetchArticle exchange path).result with
  | ok r =>
    have hlog : (Event.ofWarnings r.page.warnings.toList).map Event.entry =
        Node.logOf (Node.visibleAll r.article.content.children) := Page.log_eq r.warnings_page
    refine ⟨Event.ofWarnings r.page.warnings.toList, ?_⟩
    rw [articleHtml, hfetched, hlog]
    exact ⟨rfl, .page r⟩
  | error f =>
    have hlog : [Event.articleFailed path f.message].map Event.entry =
        [(.error, "Fetching article " ++ path ++ " failed with error " ++ f.message, [])] := by
      simp [Event.entry, Event.level, Event.message, Event.fields, String.join]
    refine ⟨[.articleFailed path f.message], ?_⟩
    rw [articleHtml, hfetched, hlog]
    exact ⟨rfl, .placeholder f⟩

end Client

/-- Whatever the exchange comes to, the page of what is fetched is shown with its warnings in the
log, or the placeholder with the one error. The placeholder and the error are there exactly if
nothing could be fetched. -/
theorem placeholder_iff_fault :
    (∀ r : ArticleReply, r.html ≠ placeholder) ∧
    ∀ (c : Client) (exchange : Exchange) (path : String),
      let fetched := (c.fetchArticle exchange path).result
      let shown := c.articleHtml exchange path
      (shown.result = placeholder ↔ ∃ f, fetched = .error f) ∧
      ∃ own : List Event,
        shown.events = .fetchingArticle path :: ((exchange (c.articleRequest path)).2 ++ own) ∧
        Shown path fetched shown.result (own.map Event.entry) ∧
        ((∃ e ∈ own, e.level = .error) ↔ ∃ f, fetched = .error f) := by
  refine ⟨ArticleReply.html_ne_placeholder, ?_⟩
  intro c exchange path fetched shown
  obtain ⟨own, hevents, hshown⟩ := c.shown_articleHtml exchange path
  refine ⟨hshown.placeholder_iff, own, hevents, hshown, ?_⟩
  rw [← hshown.error_iff]
  constructor
  · rintro ⟨e, hmem, hlevel⟩
    exact ⟨e.entry, List.mem_map_of_mem hmem, hlevel⟩
  · rintro ⟨entry, hmem, hlevel⟩
    obtain ⟨e, he, rfl⟩ := List.mem_map.1 hmem
    exact ⟨e, he, hlevel⟩

end Gazette
