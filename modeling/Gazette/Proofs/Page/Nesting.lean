import Gazette.Proofs.Page.Rows

/-! # Pages are well nested

A scanner goes over a text from left to right and keeps the names of the tags that are open. It
refuses a closing tag that does not belong to the last open one, and a bracket out of place, also
between quotes, so that it does not matter whether a tag is taken to end at the first bracket. -/
namespace Gazette.Nesting

inductive Tag where
  | opening (name : String)
  | closing (name : String)
  | void (name : String)
  deriving DecidableEq

/-- The tag of what stands between two brackets, apart from the letters between quotes. -/
def Tag.ofShape (shape : List Char) : Tag :=
  let name := String.ofList (shape.takeWhile Char.isAlphanum)
  match shape with
  | '/' :: letters => .closing (String.ofList letters)
  | _ =>
    if shape = ['b', 'r'] ∨ shape = ['h', 'r', '/'] ∨ name = "img" ∧ shape.getLast? = some '/' then
      .void name
    else .opening name

/-- Where the scanner is: in a tag, or between quotes in a tag, with what it has seen of the tag,
the last letter first. -/
inductive Place where
  | text
  | tag (seen : List Char)
  | value (seen : List Char)
  deriving DecidableEq

/-- A scan under way, with the open tags and the names of all tags met, the last ones first. -/
structure Scan where
  place : Place := .text
  stack : List String := []
  names : List String := []
  deriving DecidableEq

namespace Scan

def take (s : Scan) : Tag → Option Scan
  | .opening name => some ⟨.text, name :: s.stack, name :: s.names⟩
  | .void name => some ⟨.text, s.stack, name :: s.names⟩
  | .closing name =>
    match s.stack with
    | [] => none
    | top :: rest => if top = name then some ⟨.text, rest, name :: s.names⟩ else none

def step (s : Scan) (c : Char) : Option Scan :=
  match s.place with
  | .text =>
    if c = '<' then some { s with place := .tag [] }
    else if c = '>' then none
    else some s
  | .tag seen =>
    if c = '>' then s.take (Tag.ofShape seen.reverse)
    else if c = '<' then none
    else if c = '"' then some { s with place := .value (c :: seen) }
    else some { s with place := .tag (c :: seen) }
  | .value seen =>
    if c = '"' then some { s with place := .tag (c :: seen) }
    else if c = '<' ∨ c = '>' then none
    else some s

def run (s : Scan) : List Char → Option Scan
  | [] => some s
  | c :: cs => (s.step c).bind fun t => t.run cs

theorem run_append (s : Scan) (cs ds : List Char) :
    s.run (cs ++ ds) = (s.run cs).bind fun t => t.run ds := by
  induction cs generalizing s with
  | nil => rfl
  | cons c cs ih =>
    rw [List.cons_append, run, run, Option.bind_assoc]
    congr 1
    funext t
    exact ih t

end Scan

/-- The names of the tags on pages. -/
def pageTags : List String :=
  ["div", "blockquote", "pre", "code", "em", "h1", "h2", "h3", "h4", "h5", "h6", "a", "ol", "ul",
   "li", "p", "strong", "sub", "sup", "span", "br", "hr", "img"]

/-- The scan comes to an end with no tag open, and all tags are known. -/
def WellNested (text : String) : Prop :=
  ∃ names, Scan.run {} text.toList = some ⟨.text, [], names⟩ ∧ ∀ name ∈ names, name ∈ pageTags

/-- A text takes the scanner from one place to another, and the open tags, above those that were
open before, from one list to another. -/
def Moves (text : String) (p : Place) (σ : List String) (q : Place) (τ : List String) : Prop :=
  ∃ met, (∀ name ∈ met, name ∈ pageTags) ∧ ∀ stack names,
    Scan.run ⟨p, σ ++ stack, names⟩ text.toList = some ⟨q, τ ++ stack, met ++ names⟩

def Closed (text : String) : Prop := Moves text .text [] .text []

theorem Moves.append {a b : String} {p q r : Place} {σ τ υ : List String} (h : Moves a p σ q τ)
    (h' : Moves b q τ r υ) : Moves (a ++ b) p σ r υ := by
  obtain ⟨met, hmet, ha⟩ := h
  obtain ⟨met', hmet', hb⟩ := h'
  refine ⟨met' ++ met, List.forall_mem_append.2 ⟨hmet', hmet⟩, ?_⟩
  intro stack names
  rw [String.toList_append, Scan.run_append, ha, Option.bind_some, hb, List.append_assoc]

/-- A closed text can stand between open tags. -/
theorem Closed.inside {a : String} (h : Closed a) (σ : List String) : Moves a .text σ .text σ := by
  obtain ⟨met, hmet, ha⟩ := h
  exact ⟨met, hmet, fun stack names => ha (σ ++ stack) names⟩

theorem Closed.wellNested {a : String} (h : Closed a) : WellNested a := by
  obtain ⟨met, hmet, ha⟩ := h
  exact ⟨met, by simpa using ha [] [], hmet⟩

/-- Letters other than brackets and quotes change nothing, but in the name of a tag. -/
theorem moves_plain {text : String} (h : Without ['<', '>', '"'] text) {p : Place}
    (hp : ∀ seen, p ≠ .tag seen) (σ : List String) : Moves text p σ p σ := by
  refine ⟨[], by simp, ?_⟩
  intro stack names
  unfold Without at h
  generalize text.toList = cs at h
  -- A letter in a tag would be kept as part of its shape; in the other places the scan stays as is.
  induction cs with
  | nil => rfl
  | cons c cs ih =>
    obtain ⟨hc, hcs⟩ := List.forall_mem_cons.1 h
    simp only [List.mem_cons, List.not_mem_nil, or_false, not_or] at hc
    have hstep : Scan.step ⟨p, σ ++ stack, names⟩ c = some ⟨p, σ ++ stack, names⟩ := by
      cases p with
      | text => simp [Scan.step, hc]
      | value seen => simp [Scan.step, hc]
      | tag seen => exact absurd rfl (hp seen)
    rw [Scan.run, hstep, Option.bind_some]
    exact ih hcs

theorem closed_plain {text : String} (h : Without ['<', '>', '"'] text) : Closed text :=
  moves_plain h (by simp) []

theorem Closed.append {a b : String} (h : Closed a) (h' : Closed b) : Closed (a ++ b) :=
  Moves.append h h'

theorem run_letters {cs : List Char} (h : ∀ c ∈ cs, c ∉ ['<', '>', '"']) (seen : List Char)
    (stack names : List String) :
    Scan.run ⟨.tag seen, stack, names⟩ cs = some ⟨.tag (cs.reverse ++ seen), stack, names⟩ := by
  induction cs generalizing seen with
  | nil => rfl
  | cons c cs ih =>
    obtain ⟨hc, hcs⟩ := List.forall_mem_cons.1 h
    simp only [List.mem_cons, List.not_mem_nil, or_false, not_or] at hc
    have hstep : Scan.step ⟨.tag seen, stack, names⟩ c = some ⟨.tag (c :: seen), stack, names⟩ := by
      simp [Scan.step, hc]
    rw [Scan.run, hstep, Option.bind_some, ih hcs, List.reverse_cons, List.append_assoc]
    rfl

theorem run_tag {shape : List Char} (h : ∀ c ∈ shape, c ∉ ['<', '>', '"'])
    (stack names : List String) :
    Scan.run ⟨.text, stack, names⟩ ('<' :: (shape ++ ['>'])) =
      Scan.take ⟨.tag shape.reverse, stack, names⟩ (Tag.ofShape shape) := by
  have hopen : Scan.step ⟨.text, stack, names⟩ '<' = some ⟨.tag [], stack, names⟩ := rfl
  have hclose : Scan.step ⟨.tag shape.reverse, stack, names⟩ '>' =
      Scan.take ⟨.tag shape.reverse, stack, names⟩ (Tag.ofShape shape) := by
    simp [Scan.step]
  rw [Scan.run, hopen, Option.bind_some, Scan.run_append, run_letters h, List.append_nil,
    Option.bind_some, Scan.run, hclose]
  exact Option.bind_fun_some _

theorem elements_known : ∀ name ∈ Node.elements, name ∈ pageTags ∧
    Without ['<', '>', '"'] name ∧ Tag.ofShape name.toList = .opening name ∧
    Tag.ofShape ('/' :: name.toList) = .closing name := by
  decide

theorem moves_opening {name : String} (h : name ∈ Node.elements) :
    Moves ("<" ++ name ++ ">") .text [] .text [name] := by
  obtain ⟨hmem, hletters, hshape, -⟩ := elements_known name h
  refine ⟨[name], by simpa using hmem, ?_⟩
  intro stack names
  have hrun := run_tag hletters stack names
  rw [hshape] at hrun
  simpa [Scan.take] using hrun

theorem moves_closing {name : String} (h : name ∈ Node.elements) :
    Moves ("<" ++ ("/" ++ name) ++ ">") .text [name] .text [] := by
  obtain ⟨hmem, hletters, -, hshape⟩ := elements_known name h
  refine ⟨[name], by simpa using hmem, ?_⟩
  intro stack names
  have hslash : ∀ c ∈ '/' :: name.toList, c ∉ ['<', '>', '"'] :=
    List.forall_mem_cons.2 ⟨by decide, hletters⟩
  have hrun := run_tag hslash (name :: stack) names
  rw [hshape] at hrun
  simpa [Scan.take] using hrun

theorem closed_spaced {content : String} (hc : Closed content) : Closed (" " ++ content ++ " ") := by
  have hspace : Closed " " := closed_plain (by decide)
  exact (hspace.append hc).append hspace

theorem closed_element {name content : String} (h : name ∈ Node.elements) (hc : Closed content) :
    Closed (Node.element name content) := by
  rw [Node.element_eq]
  exact ((moves_opening h).append ((closed_spaced hc).inside [name])).append (moves_closing h)

/-- A value between the quotes of a tag. -/
theorem moves_value {before text after : String} {p q : Place} {seen : List Char}
    {σ τ υ : List String} (hb : Moves before p σ (.value seen) τ)
    (h : Without ['<', '>', '"'] text) (ha : Moves after (.value seen) τ q υ) :
    Moves (before ++ text ++ after) p σ q υ := by
  have htext : Moves text (.value seen) τ (.value seen) τ := moves_plain h (by simp) τ
  exact (hb.append htext).append ha

theorem moves_div {cls : String} (h : Without ['<', '>', '"'] cls) :
    Moves ("<div class=\"" ++ cls ++ "\">") .text [] .text ["div"] := by
  have hbefore : Moves "<div class=\"" .text [] (.value "\"=ssalc vid".toList) [] :=
    ⟨[], by decide, fun _ _ => rfl⟩
  have hafter : Moves "\">" (.value "\"=ssalc vid".toList) [] .text ["div"] :=
    ⟨["div"], by decide, fun _ _ => rfl⟩
  exact moves_value hbefore h hafter

theorem closed_div {cls content : String} (h : Without ['<', '>', '"'] cls)
    (hc : Closed content) : Closed ("<div class=\"" ++ cls ++ "\">" ++ content ++ "</div>") := by
  have hclose : Moves "</div>" .text ["div"] .text [] := ⟨["div"], by decide, fun _ _ => rfl⟩
  exact ((moves_div h).append (hc.inside ["div"])).append hclose

theorem closed_container {cls content : String} (h : Without ['<', '>', '"'] cls)
    (hc : Closed content) : Closed (Node.container cls content) := by
  rw [Node.container_eq]
  exact closed_div h (closed_spaced hc)

theorem closed_link {url content : String} (h : Without ['<', '>', '"'] url)
    (hc : Closed content) : Closed ("<a href=\"" ++ url ++ "\"> " ++ content ++ " </a>") := by
  have hbefore : Moves "<a href=\"" .text [] (.value "\"=ferh a".toList) [] :=
    ⟨[], by decide, fun _ _ => rfl⟩
  have hafter : Moves "\"> " (.value "\"=ferh a".toList) [] .text ["a"] :=
    ⟨["a"], by decide, fun _ _ => rfl⟩
  have hclose : Moves " </a>" .text ["a"] .text [] := ⟨["a"], by decide, fun _ _ => rfl⟩
  have hopen := moves_value hbefore h hafter
  exact (hopen.append (hc.inside ["a"])).append hclose

theorem closed_image {title alt url : String} (ht : Without ['<', '>', '"'] title)
    (ha : Without ['<', '>', '"'] alt) (hu : Without ['<', '>', '"'] url) :
    Closed ("<img title=\"" ++ title ++ "\" alt=\"" ++ alt ++ "\" src=\"" ++ url ++ "\" />") := by
  have h₁ : Moves "<img title=\"" .text [] (.value "\"=eltit gmi".toList) [] :=
    ⟨[], by decide, fun _ _ => rfl⟩
  have h₂ : Moves "\" alt=\"" (.value "\"=eltit gmi".toList) []
      (.value "\"=tla \"\"=eltit gmi".toList) [] := ⟨[], by decide, fun _ _ => rfl⟩
  have h₃ : Moves "\" src=\"" (.value "\"=tla \"\"=eltit gmi".toList) []
      (.value "\"=crs \"\"=tla \"\"=eltit gmi".toList) [] := ⟨[], by decide, fun _ _ => rfl⟩
  have h₄ : Moves "\" />" (.value "\"=crs \"\"=tla \"\"=eltit gmi".toList) [] .text [] :=
    ⟨["img"], by decide, fun _ _ => rfl⟩
  have htitle := moves_value h₁ ht h₂
  have halt := moves_value htitle ha h₃
  exact moves_value halt hu h₄

theorem closed_code {content : String} (hc : Closed content) :
    Closed ("<pre><code> " ++ content ++ " </code></pre>") := by
  have hopen : Moves "<pre><code> " .text [] .text ["code", "pre"] :=
    ⟨["code", "pre"], by decide, fun _ _ => rfl⟩
  have hclose : Moves " </code></pre>" .text ["code", "pre"] .text [] :=
    ⟨["pre", "code"], by decide, fun _ _ => rfl⟩
  exact (hopen.append (hc.inside _)).append hclose

theorem closed_unsupported {name content : String} (h : Without ['<', '>', '"'] name)
    (hc : Closed content) :
    Closed ("<div class=\"error\">Unsupported element: " ++ name ++ " </div> " ++ content) := by
  have hopen : Moves "<div class=\"error\">Unsupported element: " .text [] .text ["div"] :=
    ⟨["div"], by decide, fun _ _ => rfl⟩
  have hclose : Moves " </div> " .text ["div"] .text [] := ⟨["div"], by decide, fun _ _ => rfl⟩
  exact ((hopen.append ((closed_plain h).inside ["div"])).append hclose).append hc

/-- The row of a kind is closed if the children in it are. -/
theorem closed_kindRow (n : Node) {content : String}
    (h : ∀ t ∈ n.emitted, Without ['<', '>', '"'] t)
    (hc : n.kind.hides = false → Closed content) : Closed (n.kindRow content) := by
  have hheading := n.headingName_mem
  obtain ⟨kind, identifier, children, depth, value, alt, title, url, code, lang, label, ordered⟩ := n
  cases kind with
  | blockquote | emphasis | inlineCode | listItem | paragraph | strong | sub | sup | span =>
    exact closed_element (by decide) (hc rfl)
  | heading => exact closed_element hheading (hc rfl)
  | list =>
    have hname : (if ordered then "ol" else "ul") ∈ Node.elements := by cases ordered <;> decide
    exact closed_element hname (hc rfl)
  | lineBreak =>
    have hbreak : Closed "<br>" := ⟨["br"], by decide, fun _ _ => rfl⟩
    exact hbreak
  | code => exact closed_code (hc rfl)
  | image =>
    exact closed_image (h title (by simp [Node.emitted])) (h alt (by simp [Node.emitted]))
      (h url (by simp [Node.emitted]))
  | link => exact closed_link (h url (by simp [Node.emitted])) (hc rfl)
  | text => exact closed_plain (h value (by simp [Node.emitted]))
  | zone =>
    cases identifier with
    | none =>
      have hempty : Without ['<', '>', '"'] "" := by decide
      exact closed_div hempty (hc rfl)
    | some i => exact closed_div (h i.name (by simp [Node.emitted])) (hc rfl)
  | thematicBreak =>
    have hrule : Closed "<hr/> " := ⟨["hr"], by decide, fun _ _ => rfl⟩
    exact hrule.append (hc rfl)
  | unsupported name => exact closed_unsupported (h name (by simp [Node.emitted])) (hc rfl)

theorem closed_table :
    (∀ n : Node, Node.Spared ['<', '>', '"'] n.visible → Closed n.table) ∧
      ∀ ns : List Node, Node.Spared ['<', '>', '"'] (Node.visibleAll ns) →
        Closed (Node.tableAll ns) := by
  apply Node.table_rows (R := fun _ s => Closed s)
  · exact closed_plain (by decide)
  · exact closed_plain (by decide)
  · exact fun _ _ _ _ hs ht => hs.append ht
  · intro n ns cls s _ hcls hs
    have hletters : ∀ cls ∈ ["figure", "title", "center"], Without ['<', '>', '"'] cls := by
      decide
    exact closed_container (hletters cls hcls) hs
  · exact fun n ns s _ hown _ hs => closed_kindRow n hown hs

/-- If the texts that a tree emits are without brackets and quotes, then its page is well nested and
has no foreign tags, whatever else stands in the tree. -/
theorem html_wellNested :
    (∀ n : Node, Node.Spared ['<', '>', '"'] n.visible → WellNested n.html) ∧
      (∀ c : Content, Node.Spared ['<', '>', '"'] (Node.visibleAll c.children) →
        WellNested c.html) ∧
      ∀ r : ArticleReply, Node.Spared ['<', '>', '"'] (Node.visibleAll r.article.content.children) →
        WellNested r.html := by
  refine ⟨?_, ?_, ?_⟩
  · intro n h
    rw [n.html_eq]
    exact (closed_table.1 n h).wellNested
  · intro c h
    rw [c.html_eq]
    exact (closed_table.2 c.children h).wellNested
  · intro r h
    rw [r.html_eq]
    have hcls : Without ['<', '>', '"'] "article" := by decide
    exact (closed_container hcls (closed_table.2 _ h)).wellNested

/-- A heading of no level over a zone, an image, hidden children, and raw markup left unread. -/
def sample : Node :=
  .heading 9 [
    { kind := .zone, identifier := some (.other "INFOBOX"), children := [.link "/a" [.text "b"]] },
    .image "c.png" "d" "e",
    { kind := .lineBreak, children := [.text "</h1><p>"] },
    { kind := .unsupported "html", value := "<script>", children := [.ofKind .thematicBreak] }]

theorem html_wellNested_sample :
    (Node.Spared ['<', '>', '"'] sample.visible ∧ WellNested sample.html) ∧
      (Node.Spared ['<', '>', '"'] (Node.visibleAll [sample, sample]) ∧
        WellNested (Content.html { children := [sample, sample] })) ∧
      Node.Spared ['<', '>', '"'] (Node.visibleAll [sample]) ∧
        WellNested (ArticleReply.html { article := { content := { children := [sample] } } }) := by
  have hone : Node.Spared ['<', '>', '"'] sample.visible := by decide
  have hpair : Node.Spared ['<', '>', '"'] (Node.visibleAll [sample, sample]) := by decide
  have hlist : Node.Spared ['<', '>', '"'] (Node.visibleAll [sample]) := by decide
  exact ⟨⟨hone, html_wellNested.1 sample hone⟩, ⟨hpair, html_wellNested.2.1 _ hpair⟩, hlist,
    html_wellNested.2.2 _ hlist⟩

-- A text with a bracket may close what it has not opened.
example : Scan.run {} (Node.html { kind := .paragraph, children := [.text "</p>"] }).toList =
    none := by decide

end Gazette.Nesting
