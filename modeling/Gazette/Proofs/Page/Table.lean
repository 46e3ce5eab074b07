import Gazette.Client.Event
import Gazette.Page.Render
import Gazette.Proofs.Tree.Traversal

/-! # The table of pages

What the page of a tree has to be, without a page under way: the identifier decides first, then the
kind has its row, and each child is followed by a line feed. Writing adds to a page what the table
says, and notes the warnings that the visible nodes call for. -/
namespace Gazette

/-- The text of a markup around that of the children. -/
def Markup.fill (children : String) : Markup → String
  | .leaf text => text
  | .around before after => before ++ children ++ after

namespace Node

def element (name content : String) : String :=
  "<" ++ name ++ "> " ++ content ++ " </" ++ name ++ ">"

def container (cls content : String) : String :=
  "<div class=\"" ++ cls ++ "\"> " ++ content ++ " </div>"

/-- The depth of a heading if it is from 1 to 6, or else 1. -/
def headingLevel (n : Node) : Int :=
  if 1 ≤ n.depth.toInt ∧ n.depth.toInt ≤ 6 then n.depth.toInt else 1

def zoneName (n : Node) : String :=
  match n.identifier with
  | none => ""
  | some i => i.name

/-- The row of a kind, around the text of the children. -/
def kindRow (n : Node) (children : String) : String :=
  match n.kind with
  | .blockquote => element "blockquote" children
  | .lineBreak => "<br>"
  | .code => "<pre><code> " ++ children ++ " </code></pre>"
  | .emphasis => element "em" children
  | .heading => element ("h" ++ toString n.headingLevel) children
  | .image => "<img title=\"" ++ n.title ++ "\" alt=\"" ++ n.alt ++ "\" src=\"" ++ n.url ++ "\" />"
  | .inlineCode => element "code" children
  | .link => "<a href=\"" ++ n.url ++ "\"> " ++ children ++ " </a>"
  | .list => element (if n.ordered then "ol" else "ul") children
  | .listItem => element "li" children
  | .paragraph => element "p" children
  | .strong => element "strong" children
  | .sub => element "sub" children
  | .sup => element "sup" children
  | .span => element "span" children
  | .text => n.value
  | .zone => "<div class=\"" ++ n.zoneName ++ "\">" ++ children ++ "</div>"
  | .thematicBreak => "<hr/> " ++ children
  | .unsupported name =>
    "<div class=\"error\">Unsupported element: " ++ name ++ " </div> " ++ children

/-- The row of a node: some identifiers have one of their own. -/
def row (n : Node) (children : String) : String :=
  match n.identifier with
  | some .center => container "center" children
  | some .figure => container "figure" children
  | some .title => container "title" children
  | _ => n.kindRow children

mutual
/-- The text that the table gives to a tree. -/
def table : Node → String
  | n@{ children, .. } => n.row (tableAll children)
  termination_by structural n => n
def tableAll : List Node → String
  | [] => ""
  | n :: ns => n.table ++ "\n" ++ tableAll ns
  termination_by structural ns => ns
end

theorem table_eq (n : Node) : n.table = n.row (tableAll n.children) := by cases n; rfl

/-- The warnings that a node of its kind calls for. -/
def notices (n : Node) : List Warning :=
  match n.kind with
  | .heading =>
    if 1 ≤ n.depth.toInt ∧ n.depth.toInt ≤ 6 then [] else [.headingDepth n.depth]
  | .unsupported name => [.unsupported name]
  | _ => []

/-- The warnings that some nodes call for; in a frame of its own a node is silent. -/
def warnings (ns : List Node) : List Warning := (plain ns).flatMap notices

theorem warnings_nil : warnings [] = [] := rfl

theorem warnings_append (ns ms : List Node) : warnings (ns ++ ms) = warnings ns ++ warnings ms :=
  flatMap_plain_append notices ns ms

theorem warnings_cons (n : Node) (ns : List Node) :
    warnings (n :: ns) = (if n.framed then [] else n.notices) ++ warnings ns :=
  flatMap_plain_cons notices n ns

theorem framed_eq (n : Node) : n.framed = n.frame?.isSome := by
  unfold frame? framed
  rcases n.identifier with _ | _ | _ | _ | name <;> simp [Identifier.frame?]

theorem isLevel_iff (depth : Int64) :
    isLevel depth = true ↔ 1 ≤ depth.toInt ∧ depth.toInt ≤ 6 := by
  have h₁ : (1 : Int64).toInt = 1 := rfl
  have h₆ : (6 : Int64).toInt = 6 := rfl
  simp [isLevel, Int64.le_iff_toInt_le, h₁, h₆]

theorem warning?_toList (n : Node) :
    n.warning?.toList = if n.framed then [] else n.notices := by
  rw [framed_eq]
  cases hf : n.frame? with
  | some cls => simp [warning?, hf]
  | none =>
    by_cases hl : isLevel n.depth
    · have hd := (isLevel_iff n.depth).1 hl
      cases hk : n.kind <;> simp [warning?, notices, hf, hk, hl, hd]
    · have hd := mt (isLevel_iff n.depth).2 hl
      cases hk : n.kind <;> simp [warning?, notices, hf, hk, hl, hd]

theorem level_eq (n : Node) : n.level = toString n.headingLevel := by
  unfold level headingLevel
  by_cases hl : isLevel n.depth
  · rw [if_pos hl, if_pos ((isLevel_iff n.depth).1 hl)]
  · rw [if_neg hl, if_neg (mt (isLevel_iff n.depth).2 hl)]
    rfl

theorem zoneName_eq (n : Node) : n.zoneName = n.zoneClass := by
  unfold zoneName zoneClass
  cases n.identifier <;> rfl

theorem kindRow_eq (n : Node) (children : String) :
    n.kindRow children = n.kindMarkup.fill children := by
  apply String.toList_injective
  cases h : n.kind with
  | list => cases ho : n.ordered <;> simp [kindRow, kindMarkup, h, ho, Markup.fill, element]
  | _ => simp [kindRow, kindMarkup, h, Markup.fill, element, level_eq, zoneName_eq]

theorem row_eq (n : Node) (children : String) : n.row children = n.markup.fill children := by
  rcases h : n.identifier with _ | _ | _ | _ | name
  case none => simp [row, markup, frame?, h, kindRow_eq]
  case some.other => simp [row, markup, frame?, Identifier.frame?, h, kindRow_eq]
  all_goals simp [row, markup, frame?, Identifier.frame?, h, container, Markup.fill]

/-- A markup leaves the children out if they are not visible. -/
theorem markup_cases (n : Node) :
    (∃ text, n.markup = .leaf text ∧ n.shows = false) ∨
      ∃ before after, n.markup = .around before after ∧ n.shows = true := by
  unfold markup shows
  rw [framed_eq]
  cases hf : n.frame? with
  | some cls => simp
  | none =>
    cases hk : n.kind with
    | list => cases ho : n.ordered <;> simp [kindMarkup, Kind.hides, hk, ho]
    | _ => simp [kindMarkup, Kind.hides, hk]

theorem visible_leaf {n : Node} (h : n.shows = false) : n.visible = [n] := by
  simp [visible_eq, h]

theorem visible_around {n : Node} (h : n.shows = true) :
    n.visible = n :: visibleAll n.children := by
  simp [visible_eq, h]

/-- What is written of nodes stands behind what the page held before, in text and in warnings. -/
theorem write_spec :
    (∀ (n : Node) (p : Page), (n.write p).text = p.text ++ n.table ∧
        (n.write p).warnings.toList = p.warnings.toList ++ warnings n.visible) ∧
      ∀ (ns : List Node) (p : Page), (writeAll ns p).text = p.text ++ tableAll ns ∧
        (writeAll ns p).warnings.toList = p.warnings.toList ++ warnings (visibleAll ns) := by
  apply walk
  · intro n ih p
    rw [write_eq, table_eq, row_eq]
    -- The children go on a page that has the node's own warning and what stands before them.
    rcases markup_cases n with ⟨text, hm, hs⟩ | ⟨before, after, hm, hs⟩
    · simp [hm, Markup.fill, visible_leaf hs, warnings_cons, warnings_nil, warning?_toList]
    · obtain ⟨htext, hwarn⟩ := ih ((p.note n.warning?).add before)
      simp only [hm, Markup.fill, visible_around hs, warnings_cons]
      constructor
      · simp [htext, String.append_assoc]
      · simp [hwarn, warning?_toList, List.append_assoc]
  · intro p
    simp [writeAll, tableAll, visibleAll, warnings_nil]
  · intro n ns hn hns p
    obtain ⟨htext, hwarn⟩ := hns ((n.write p).add "\n")
    rw [writeAll, tableAll, visibleAll, warnings_append]
    constructor
    · simp [htext, hn p, String.append_assoc]
    · simp [hwarn, hn p, List.append_assoc]

theorem text_writeAll (ns : List Node) : (writeAll ns {}).text = tableAll ns := by
  have h := (write_spec.2 ns {}).1
  rwa [String.empty_append] at h

theorem warnings_writeAll (ns : List Node) :
    (writeAll ns {}).warnings.toList = warnings (visibleAll ns) :=
  (write_spec.2 ns {}).2

theorem html_eq (n : Node) : n.html = n.table := by
  have h := (write_spec.1 n {}).1
  rwa [String.empty_append] at h

theorem warnings_page (n : Node) : n.page.warnings.toList = warnings n.visible :=
  (write_spec.1 n {}).2

/-- What the log says of a node of its kind: level, message, and what is noted beside it. -/
def logEntries (n : Node) : List (Level × String × List (String × Json)) :=
  match n.kind with
  | .heading =>
    if 1 ≤ n.depth.toInt ∧ n.depth.toInt ≤ 6 then []
    else [(.warn, "Heading depth not in range, rendering as h1", [("depth", .int n.depth.toInt)])]
  | .unsupported name => [(.warn, "Unsupported element: " ++ name, [("kind", .str name)])]
  | _ => []

def logOf (ns : List Node) : List (Level × String × List (String × Json)) :=
  (plain ns).flatMap logEntries

end Node

theorem Content.html_eq (c : Content) : c.html = Node.tableAll c.children :=
  Node.text_writeAll c.children

theorem ArticleReply.html_eq (r : ArticleReply) :
    r.html = "<div class=\"article\"> " ++ Node.tableAll r.article.content.children ++ " </div>" :=
  congrArg (· ++ " </div>") (Node.write_spec.2 r.article.content.children _).1

theorem ArticleReply.warnings_page (r : ArticleReply) :
    r.page.warnings.toList = Node.warnings (Node.visibleAll r.article.content.children) :=
  (Node.write_spec.2 r.article.content.children _).2

/-- What the log says of an event: level, message, and what is noted beside it. -/
def Event.entry (e : Event) : Level × String × List (String × Json) :=
  (e.level, e.message, e.fields)

def Page.log (p : Page) : List (Level × String × List (String × Json)) :=
  (Event.ofWarnings p.warnings.toList).map Event.entry

theorem Node.log_notices (n : Node) :
    (Event.ofWarnings n.notices).map Event.entry = n.logEntries := by
  unfold notices logEntries
  cases n.kind with
  | heading =>
    by_cases h : 1 ≤ n.depth.toInt ∧ n.depth.toInt ≤ 6
    · simp [Event.ofWarnings, h]
    · simp only [if_neg h]
      rfl
  | unsupported name =>
    simp [Event.ofWarnings, Event.entry, Event.level, Event.message, Event.fields, Warning.message,
      Warning.fields, String.join]
  | _ => rfl

theorem Page.log_append {p q : Page} {ns : List Node}
    (h : q.warnings.toList = p.warnings.toList ++ Node.warnings ns) :
    q.log = p.log ++ Node.logOf ns := by
  rw [log, h, Event.ofWarnings, List.map_append, List.map_append]
  congr 1
  rw [Node.warnings, Node.logOf, List.map_flatMap, List.map_flatMap]
  congr 1
  funext n
  exact n.log_notices

theorem Page.log_eq {p : Page} {ns : List Node} (h : p.warnings.toList = Node.warnings ns) :
    p.log = Node.logOf ns :=
  log_append (p := {}) h

/-- Writing adds exactly the text of the table and the log of the visible nodes to any page, and
every whole page is what the table says of its tree. -/
theorem write_refines_table :
    (∀ (n : Node) (p : Page), (n.write p).text = p.text ++ n.table ∧
        (n.write p).log = p.log ++ Node.logOf n.visible) ∧
      (∀ (ns : List Node) (p : Page), (Node.writeAll ns p).text = p.text ++ Node.tableAll ns ∧
        (Node.writeAll ns p).log = p.log ++ Node.logOf (Node.visibleAll ns)) ∧
      (∀ n : Node, n.html = n.table ∧ n.page.log = Node.logOf n.visible) ∧
      (∀ n : Node, n.childrenPage.text = Node.tableAll n.children ∧
        n.childrenPage.log = Node.logOf (Node.visibleAll n.children)) ∧
      (∀ c : Content, c.html = Node.tableAll c.children ∧
        c.page.log = Node.logOf (Node.visibleAll c.children)) ∧
      (∀ a : Article, a.html = Node.tableAll a.content.children ∧
        a.page.log = Node.logOf (Node.visibleAll a.content.children)) ∧
      ∀ r : ArticleReply,
        r.html = "<div class=\"article\"> " ++ Node.tableAll r.article.content.children ++
          " </div>" ∧
        r.page.log = Node.logOf (Node.visibleAll r.article.content.children) := by
  refine ⟨?_, ?_, ?_, ?_, ?_, ?_, ?_⟩
  · intro n p
    obtain ⟨htext, hwarn⟩ := Node.write_spec.1 n p
    exact ⟨htext, Page.log_append hwarn⟩
  · intro ns p
    obtain ⟨htext, hwarn⟩ := Node.write_spec.2 ns p
    exact ⟨htext, Page.log_append hwarn⟩
  · exact fun n => ⟨n.html_eq, Page.log_eq n.warnings_page⟩
  · exact fun n => ⟨Node.text_writeAll n.children, Page.log_eq (Node.warnings_writeAll n.children)⟩
  · exact fun c => ⟨c.html_eq, Page.log_eq (Node.warnings_writeAll c.children)⟩
  · exact fun a => ⟨a.content.html_eq, Page.log_eq (Node.warnings_writeAll a.content.children)⟩
  · exact fun r => ⟨r.html_eq, Page.log_eq r.warnings_page⟩

end Gazette
