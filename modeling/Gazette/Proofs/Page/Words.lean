import Gazette.Proofs.Page.Rows

/-! # The words of a page

Without its tags, and without blanks and line feeds, a page holds the texts of its tree and the
marks of unsupported kinds, each once and in their order. -/
namespace Gazette.Words

/-- A text without its tags, read from within a tag or from outside. What stands from a bracket to
the next closing one goes with both; a bracket that nothing closes stays. -/
def untagged (inside : Bool) : List Char → List Char
  | [] => []
  | c :: cs =>
    if inside then untagged (c ≠ '>') cs
    else if c = '<' ∧ '>' ∈ cs then untagged true cs
    else c :: untagged false cs

def solid (cs : List Char) : List Char := cs.filter fun c => c ≠ ' ' && c ≠ '\n'

/-- What is left of a page without tags, spaces and line feeds. -/
def residue (cs : List Char) : List Char := solid (untagged false cs)

/-- What a node says by its kind. -/
def spoken (n : Node) : List Char :=
  match n.kind with
  | .text => solid n.value.toList
  | .unsupported name => "Unsupportedelement:".toList ++ solid name.toList
  | _ => []

def spokenAll (ns : List Node) : List Char := (Node.plain ns).flatMap spoken

theorem spokenAll_append (ns ms : List Node) :
    spokenAll (ns ++ ms) = spokenAll ns ++ spokenAll ms :=
  Node.flatMap_plain_append spoken ns ms

theorem spokenAll_cons (n : Node) (ns : List Node) :
    spokenAll (n :: ns) = (if n.framed then [] else spoken n) ++ spokenAll ns :=
  Node.flatMap_plain_cons spoken n ns

/-- A text leaves some letters, whatever stands behind it. -/
def Leaves (text : String) (w : List Char) : Prop :=
  ∀ rest, residue (text.toList ++ rest) = w ++ residue rest

theorem Leaves.append {a b : String} {v w : List Char} (h : Leaves a v) (h' : Leaves b w) :
    Leaves (a ++ b) (v ++ w) := by
  intro rest
  rw [String.toList_append, List.append_assoc, h, h', List.append_assoc]

theorem Leaves.residue_eq {a : String} {w : List Char} (h : Leaves a w) : residue a.toList = w := by
  have hend := h []
  rw [List.append_nil] at hend
  rw [hend]
  exact List.append_nil w

theorem leaves_plain {text : String} (h : Without ['<', '>'] text) :
    Leaves text (solid text.toList) := by
  intro rest
  unfold Without at h
  generalize text.toList = cs at h
  have huntag : untagged false (cs ++ rest) = cs ++ untagged false rest := by
    induction cs with
    | nil => rfl
    | cons c cs ih =>
      obtain ⟨hc, hcs⟩ := List.forall_mem_cons.1 h
      simp only [List.mem_cons, List.not_mem_nil, or_false, not_or] at hc
      simp [untagged, hc, ih hcs]
  rw [residue, huntag, solid, List.filter_append]
  rfl

theorem untagged_inside {cs : List Char} (h : '>' ∉ cs) (rest : List Char) :
    untagged true (cs ++ '>' :: rest) = untagged false rest := by
  induction cs with
  | nil => simp [untagged]
  | cons c cs ih =>
    rw [List.mem_cons, not_or] at h
    simp [untagged, Ne.symm h.1, ih h.2]

theorem leaves_tag {body : String} (h : '>' ∉ body.toList) : Leaves ("<" ++ body ++ ">") [] := by
  intro rest
  have huntag : untagged false ('<' :: (body.toList ++ '>' :: rest)) = untagged false rest := by
    rw [untagged]
    simp [untagged_inside h]
  have hlist : ("<" ++ body ++ ">").toList ++ rest = '<' :: (body.toList ++ '>' :: rest) := by
    simp
  rw [residue, hlist, huntag]
  rfl

-- A bracket that nothing closes begins no tag.
example : residue "a <b c>d<e".toList = "ad<e".toList := by decide

theorem leaves_spaced {content : String} {w : List Char} (hc : Leaves content w) :
    Leaves (" " ++ content ++ " ") w := by
  have hspace : Leaves " " [] := leaves_plain (by decide)
  have hall := (hspace.append hc).append hspace
  rwa [List.append_nil] at hall

/-- Between two tags a text leaves the same as alone. -/
theorem leaves_between {before content after : String} {w : List Char}
    (hb : '>' ∉ before.toList) (hc : Leaves content w) (ha : '>' ∉ after.toList) :
    Leaves ("<" ++ before ++ ">" ++ content ++ ("<" ++ after ++ ">")) w := by
  have hall := ((leaves_tag hb).append hc).append (leaves_tag ha)
  rwa [List.append_nil] at hall

theorem leaves_element {name content : String} {w : List Char} (h : name ∈ Node.elements)
    (hc : Leaves content w) : Leaves (Node.element name content) w := by
  have hletters : ∀ name ∈ Node.elements, '>' ∉ name.toList ∧ '>' ∉ ("/" ++ name).toList := by
    decide
  obtain ⟨hopen, hclose⟩ := hletters name h
  rw [Node.element_eq]
  exact leaves_between hopen (leaves_spaced hc) hclose

theorem leaves_div {cls content : String} {w : List Char} (h : '>' ∉ cls.toList)
    (hc : Leaves content w) : Leaves ("<div class=\"" ++ cls ++ "\">" ++ content ++ "</div>") w := by
  have heq : "<div class=\"" ++ cls ++ "\">" ++ content ++ "</div>" =
      "<" ++ ("div class=\"" ++ cls ++ "\"") ++ ">" ++ content ++ ("<" ++ "/div" ++ ">") := by
    apply String.toList_injective
    simp
  rw [heq]
  exact leaves_between (by simp [h]) hc (by decide)

theorem leaves_container {cls content : String} {w : List Char} (h : '>' ∉ cls.toList)
    (hc : Leaves content w) : Leaves (Node.container cls content) w := by
  rw [Node.container_eq]
  exact leaves_div h (leaves_spaced hc)

theorem leaves_code {content : String} {w : List Char} (hc : Leaves content w) :
    Leaves ("<pre><code> " ++ content ++ " </code></pre>") w := by
  have heq : "<pre><code> " ++ content ++ " </code></pre>" = "<" ++ "pre" ++ ">" ++
      ("<" ++ "code" ++ ">" ++ (" " ++ content ++ " ") ++ ("<" ++ "/code" ++ ">")) ++
        ("<" ++ "/pre" ++ ">") := by
    apply String.toList_injective
    simp
  rw [heq]
  exact leaves_between (by decide) (leaves_between (by decide) (leaves_spaced hc) (by decide))
    (by decide)

theorem leaves_link {url content : String} {w : List Char} (h : '>' ∉ url.toList)
    (hc : Leaves content w) : Leaves ("<a href=\"" ++ url ++ "\"> " ++ content ++ " </a>") w := by
  have heq : "<a href=\"" ++ url ++ "\"> " ++ content ++ " </a>" =
      "<" ++ ("a href=\"" ++ url ++ "\"") ++ ">" ++ (" " ++ content ++ " ") ++
        ("<" ++ "/a" ++ ">") := by
    apply String.toList_injective
    simp
  rw [heq]
  exact leaves_between (by simp [h]) (leaves_spaced hc) (by decide)

theorem leaves_image {title alt url : String} (ht : '>' ∉ title.toList) (ha : '>' ∉ alt.toList)
    (hu : '>' ∉ url.toList) :
    Leaves ("<img title=\"" ++ title ++ "\" alt=\"" ++ alt ++ "\" src=\"" ++ url ++ "\" />") [] := by
  have htag : Leaves ("<" ++ ("img title=\"" ++ title ++ "\" alt=\"" ++ alt ++ "\" src=\"" ++ url ++
      "\" /") ++ ">") [] := leaves_tag (by simp [ht, ha, hu])
  have heq : "<img title=\"" ++ title ++ "\" alt=\"" ++ alt ++ "\" src=\"" ++ url ++ "\" />" =
      "<" ++ ("img title=\"" ++ title ++ "\" alt=\"" ++ alt ++ "\" src=\"" ++ url ++ "\" /") ++
        ">" := by
    apply String.toList_injective
    simp
  rw [heq]
  exact htag

theorem leaves_unsupported {name content : String} {w : List Char}
    (h : Without ['<', '>'] name) (hc : Leaves content w) :
    Leaves ("<div class=\"error\">Unsupported element: " ++ name ++ " </div> " ++ content)
      ("Unsupportedelement:".toList ++ solid name.toList ++ w) := by
  have hopen : Leaves "<div class=\"error\">Unsupported element: " "Unsupportedelement:".toList :=
    fun _ => by simp [residue, untagged, solid]
  have hclose : Leaves " </div> " [] := fun _ => by simp [residue, untagged, solid]
  have hall := ((hopen.append (leaves_plain h)).append hclose).append hc
  simpa only [List.append_nil] using hall

/-- The row of a kind leaves what the node says, and what its children leave behind it. -/
theorem leaves_kindRow (n : Node) {content : String} {w : List Char}
    (h : ∀ t ∈ n.emitted, Without ['<', '>'] t) (hw : n.kind.hides = true → w = [])
    (hc : n.kind.hides = false → Leaves content w) :
    Leaves (n.kindRow content) (spoken n ++ w) := by
  have hheading := n.headingName_mem
  have hclosing (t : String) (ht : t ∈ n.emitted) : '>' ∉ t.toList :=
    fun hmem => h t ht '>' hmem (by decide)
  obtain ⟨kind, identifier, children, depth, value, alt, title, url, code, lang, label, ordered⟩ := n
  cases kind with
  | blockquote | emphasis | inlineCode | listItem | paragraph | strong | sub | sup | span =>
    exact leaves_element (by decide) (hc rfl)
  | heading => exact leaves_element hheading (hc rfl)
  | list =>
    have hname : (if ordered then "ol" else "ul") ∈ Node.elements := by cases ordered <;> decide
    exact leaves_element hname (hc rfl)
  | lineBreak =>
    have htag : Leaves ("<" ++ "br" ++ ">") [] := leaves_tag (by decide)
    rw [hw rfl]
    exact htag
  | code => exact leaves_code (hc rfl)
  | image =>
    rw [hw rfl]
    exact leaves_image (hclosing title (by simp [Node.emitted])) (hclosing alt (by simp [Node.emitted]))
      (hclosing url (by simp [Node.emitted]))
  | link => exact leaves_link (hclosing url (by simp [Node.emitted])) (hc rfl)
  | text =>
    rw [hw rfl, List.append_nil]
    exact leaves_plain (h value (by simp [Node.emitted]))
  | zone =>
    cases identifier with
    | none =>
      have hempty : '>' ∉ "".toList := by decide
      exact leaves_div hempty (hc rfl)
    | some i => exact leaves_div (hclosing i.name (by simp [Node.emitted])) (hc rfl)
  | thematicBreak =>
    have hrule : Leaves "<hr/> " [] := fun _ => by simp [residue, untagged, solid]
    exact hrule.append (hc rfl)
  | unsupported name => exact leaves_unsupported (h name (by simp [Node.emitted])) (hc rfl)

theorem leaves_table :
    (∀ n : Node, Node.Spared ['<', '>'] n.visible → Leaves n.table (spokenAll n.visible)) ∧
      ∀ ns : List Node, Node.Spared ['<', '>'] (Node.visibleAll ns) →
        Leaves (Node.tableAll ns) (spokenAll (Node.visibleAll ns)) := by
  apply Node.table_rows (R := fun ns s => Leaves s (spokenAll ns))
  · exact fun _ => rfl
  · exact leaves_plain (by decide)
  · intro ns ms s t hs ht
    rw [spokenAll_append]
    exact hs.append ht
  · intro n ns cls s hf hcls hs
    have hletters : ∀ cls ∈ ["figure", "title", "center"], '>' ∉ cls.toList := by decide
    rw [spokenAll_cons, hf]
    exact leaves_container (hletters cls hcls) hs
  · intro n ns s hf hown hhides hs
    rw [spokenAll_cons, hf]
    apply leaves_kindRow n hown
    · intro hk
      rw [hhides hk]
      rfl
    · exact hs

/-- If the texts that a tree emits are without brackets, then its page without tags, spaces and line
feeds is what the visible nodes say, in their order. -/
theorem residue_html :
    (∀ n : Node, Node.Spared ['<', '>'] n.visible →
      residue n.html.toList = spokenAll n.visible) ∧
      (∀ c : Content, Node.Spared ['<', '>'] (Node.visibleAll c.children) →
        residue c.html.toList = spokenAll (Node.visibleAll c.children)) ∧
      ∀ r : ArticleReply, Node.Spared ['<', '>'] (Node.visibleAll r.article.content.children) →
        residue r.html.toList = spokenAll (Node.visibleAll r.article.content.children) := by
  refine ⟨?_, ?_, ?_⟩
  · intro n h
    rw [n.html_eq]
    exact (leaves_table.1 n h).residue_eq
  · intro c h
    rw [c.html_eq]
    exact (leaves_table.2 c.children h).residue_eq
  · intro r h
    have hcls : '>' ∉ "article".toList := by decide
    rw [r.html_eq]
    exact (leaves_container hcls (leaves_table.2 _ h)).residue_eq

/-- Text around a break and an unsupported kind, with a tag where no text is read. -/
def sample : Node :=
  { kind := .paragraph, value := "<b>", children := [
    .text "a \"b\"",
    { kind := .lineBreak, children := [.text "<hidden>"] },
    { kind := .unsupported "foot note", identifier := some (.other ">"),
      children := [.text "c\n"] }] }

theorem residue_html_sample :
    (Node.Spared ['<', '>'] sample.visible ∧ residue sample.html.toList = spokenAll sample.visible) ∧
      (Node.Spared ['<', '>'] (Node.visibleAll [sample, sample]) ∧
        residue (Content.html { children := [sample, sample] }).toList =
          spokenAll (Node.visibleAll [sample, sample])) ∧
      Node.Spared ['<', '>'] (Node.visibleAll [sample]) ∧
        residue (ArticleReply.html { article := { content := { children := [sample] } } }).toList =
          spokenAll (Node.visibleAll [sample]) := by
  have hone : Node.Spared ['<', '>'] sample.visible := by decide
  have hpair : Node.Spared ['<', '>'] (Node.visibleAll [sample, sample]) := by decide
  have hlist : Node.Spared ['<', '>'] (Node.visibleAll [sample]) := by decide
  exact ⟨⟨hone, residue_html.1 sample hone⟩, ⟨hpair, residue_html.2.1 _ hpair⟩, hlist,
    residue_html.2.2 _ hlist⟩

end Gazette.Words
