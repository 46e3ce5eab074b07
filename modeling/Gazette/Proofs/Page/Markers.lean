import Mathlib.Data.List.Infix
import Gazette.Proofs.Page.Rows

/-! # The marks of unsupported kinds

A page says where a kind has no rule, and so does the log. A mark can be told from everything else
on the page, whatever stands next to it, so that marks and warnings are the same names in the same
order. Only a zone with the class of the marks could be taken for one. -/
namespace Gazette.Markers

/-- What stands on the page in front of the name of a kind without a rule. -/
def mark : List Char := "<div class=\"error\">Unsupported element: ".toList

/-- What stands behind the name. -/
def closing : List Char := " </div>".toList

/-- What stands behind each occurrence of a word, from the first one to the last. -/
def behind (word text : List Char) : List (List Char) :=
  (text.tails.filter (word <+: ·)).map (List.drop word.length)

/-- What stands in front of the first occurrence of a word, if there is one. -/
def before? (word : List Char) : List Char → Option (List Char)
  | [] => if word = [] then some [] else none
  | c :: cs => if word <+: c :: cs then some [] else (before? word cs).map (c :: ·)

/-- What each mark of a text names, up to where it is closed. -/
def marked (text : List Char) : List (Option (List Char)) :=
  (behind mark text).map (before? closing)

/-- What is said in a log of kinds without a rule. -/
def complaints (log : List (Level × String × List (String × Json))) :
    List (Level × String × List (String × Json)) :=
  log.filter fun entry => entry.1 = .warn && "Unsupported element".toList <+: entry.2.1.toList

/-- The marks of a text and the warnings in a log are as many, and they name the same kinds in the
same order. -/
structure Told (text : String) (log : List (Level × String × List (String × Json))) : Prop where
  count : (behind mark text.toList).length = (complaints log).length
  kinds : (behind mark text.toList).map
      (fun rest => (before? closing rest).map fun name => Json.str (String.ofList name)) =
    (complaints log).map fun entry => entry.2.2.lookup "kind"

/-- No zone among the nodes has the class of the marks, unless a frame stands in its place. -/
def Unforged (ns : List Node) : Prop :=
  ∀ n ∈ Node.plain ns, n.kind = .zone → n.identifier.map Identifier.name ≠ some "error"

instance (ns : List Node) : Decidable (Unforged ns) :=
  inferInstanceAs (Decidable (∀ n ∈ Node.plain ns, n.kind = .zone →
    n.identifier.map Identifier.name ≠ some "error"))

/-- The name of a kind without a rule. -/
def unruled (n : Node) : List String :=
  match n.kind with
  | .unsupported name => [name]
  | _ => []

def unruledAll (ns : List Node) : List String := (Node.plain ns).flatMap unruled

theorem unruledAll_append (ns ms : List Node) :
    unruledAll (ns ++ ms) = unruledAll ns ++ unruledAll ms :=
  Node.flatMap_plain_append unruled ns ms

theorem unruledAll_cons (n : Node) (ns : List Node) :
    unruledAll (n :: ns) = (if n.framed then [] else unruled n) ++ unruledAll ns :=
  Node.flatMap_plain_cons unruled n ns

theorem unforged_append {ns ms : List Node} :
    Unforged (ns ++ ms) ↔ Unforged ns ∧ Unforged ms := by
  rw [Unforged, Node.plain_append, List.forall_mem_append]
  rfl

theorem unforged_cons {n : Node} {ns : List Node} : Unforged (n :: ns) ↔
    (n.framed = false → n.kind = .zone → n.identifier.map Identifier.name ≠ some "error") ∧
      Unforged ns := by
  unfold Unforged Node.plain
  cases h : n.framed <;> simp [h]

/-! ## The marks of a text -/

theorem marked_cons (c : Char) (cs : List Char) : marked (c :: cs) =
    (if mark <+: c :: cs then [before? closing ((c :: cs).drop mark.length)] else []) ++
      marked cs := by
  unfold marked behind
  rw [List.tails_cons, List.filter_cons]
  split <;> simp_all

/-- A text has some marks, and whatever is put behind it neither adds to them nor takes away. -/
def Marks (text : String) (names : List String) : Prop :=
  ∀ rest, marked (text.toList ++ rest) = names.map (fun name => some name.toList) ++ marked rest

theorem Marks.append {a b : String} {v w : List String} (h : Marks a v) (h' : Marks b w) :
    Marks (a ++ b) (v ++ w) := by
  intro rest
  rw [String.toList_append, List.append_assoc, h, h', List.map_append, List.append_assoc]

theorem Marks.marked_eq {a : String} {w : List String} (h : Marks a w) :
    marked a.toList = w.map fun name => some name.toList := by
  have hend := h []
  rw [List.append_nil] at hend
  rw [hend]
  exact List.append_nil _

/-- No mark begins in a text, whatever is put behind it. -/
def Inert (text : String) : Prop :=
  ∀ t ∈ text.toList.tails, t ≠ [] → ¬ t <+: mark ∧ ¬ mark <+: t

instance (text : String) : Decidable (Inert text) :=
  inferInstanceAs (Decidable (∀ t ∈ text.toList.tails, t ≠ [] → ¬ t <+: mark ∧ ¬ mark <+: t))

theorem Inert.marks {text : String} (h : Inert text) : Marks text [] := by
  intro rest
  unfold Inert at h
  generalize text.toList = cs at h
  induction cs with
  | nil => rfl
  | cons c cs ih =>
    rw [List.tails_cons, List.forall_mem_cons] at h
    obtain ⟨hhere, hbelow⟩ := h
    obtain ⟨hshort, hlong⟩ := hhere (by simp)
    -- A mark that goes on behind the text would have begun with all that is left of it.
    have hmark : ¬ mark <+: c :: (cs ++ rest) := by
      intro hprefix
      rcases List.prefix_or_prefix_of_prefix hprefix (List.prefix_append (c :: cs) rest) with h | h
      · exact hlong h
      · exact hshort h
    rw [List.cons_append, marked_cons, if_neg hmark, List.nil_append]
    exact ih hbelow

theorem inert_plain {text : String} (h : '<' ∉ text.toList) : Inert text := by
  intro t ht hne
  obtain ⟨c, cs, rfl⟩ := List.exists_cons_of_ne_nil hne
  have hmem : c ∈ text.toList := ((List.mem_tails _ _).1 ht).subset List.mem_cons_self
  have hc : c ≠ '<' := by
    rintro rfl
    exact h hmem
  have hmark : mark = '<' :: mark.tail := rfl
  rw [hmark, List.cons_prefix_cons, List.cons_prefix_cons]
  exact ⟨fun hboth => hc hboth.1, fun hboth => hc hboth.1.symm⟩

/-- What stands around a text adds no marks to it. -/
theorem Marks.around {before content after : String} {w : List String} (hb : Inert before)
    (hc : Marks content w) (ha : Inert after) : Marks (before ++ content ++ after) w := by
  have hall := (hb.marks.append hc).append ha.marks
  rwa [List.nil_append, List.append_nil] at hall

theorem marks_mark (rest : List Char) :
    marked (mark ++ rest) = before? closing rest :: marked rest := by
  have htail : Inert (String.ofList mark.tail) := by decide
  have hrest := htail.marks rest
  rw [String.toList_ofList] at hrest
  have hmark : mark ++ rest = '<' :: (mark.tail ++ rest) := rfl
  have hprefix : mark <+: '<' :: (mark.tail ++ rest) := List.prefix_append mark rest
  rw [hmark, marked_cons, if_pos hprefix, hrest, ← hmark, List.drop_left]
  rfl

theorem before?_closing {cs : List Char} (h : '<' ∉ cs) (rest : List Char) :
    before? closing (cs ++ (closing ++ rest)) = some cs := by
  induction cs with
  | nil => rfl
  | cons c cs ih =>
    rw [List.mem_cons, not_or] at h
    -- The bracket would have to be the next character, and that is another one or a space.
    have hclosing : ¬ closing <+: c :: (cs ++ (closing ++ rest)) := by
      have hshape : closing = ' ' :: '<' :: closing.drop 2 := rfl
      intro hprefix
      rw [hshape, List.cons_prefix_cons] at hprefix
      cases cs with
      | nil => exact absurd (List.cons_prefix_cons.1 hprefix.2).1 (by decide)
      | cons d cs =>
        have hd := (List.cons_prefix_cons.1 hprefix.2).1
        exact h.2 (hd ▸ List.mem_cons_self)
    rw [List.cons_append, before?, if_neg hclosing, ih h.2]
    rfl

/-! ## The rows of the table -/

theorem marks_element {name content : String} {w : List String} (h : name ∈ Node.elements)
    (hc : Marks content w) : Marks (Node.element name content) w := by
  have hinert : ∀ name ∈ Node.elements,
      Inert ("<" ++ name ++ "> ") ∧ Inert (" </" ++ name ++ ">") := by
    decide
  obtain ⟨hopen, hclose⟩ := hinert name h
  have heq : Node.element name content =
      "<" ++ name ++ "> " ++ content ++ (" </" ++ name ++ ">") := by
    apply String.toList_injective
    simp [Node.element]
  rw [heq]
  exact hc.around hopen hclose

theorem takeWhile_quote {cs : List Char} (h : '"' ∉ cs) (rest : List Char) :
    (cs ++ '"' :: rest).takeWhile (· ≠ '"') = cs := by
  have hall : ∀ c ∈ cs, decide (c ≠ '"') = true := by
    intro c hc
    rw [decide_eq_true_iff]
    rintro rfl
    exact h hc
  rw [List.takeWhile_append_of_pos hall]
  simp

/-- A class other than that of the marks makes no mark. -/
theorem marks_class {cls : String} (h : Without ['<', '>', '"'] cls) (hne : cls ≠ "error") :
    Marks ("<div class=\"" ++ cls ++ "\">") [] := by
  have hbracket : '<' ∉ cls.toList := fun hmem => h '<' hmem (by decide)
  have hquote : '"' ∉ cls.toList := fun hmem => h '"' hmem (by decide)
  have hbody : Inert ("div class=\"" ++ cls ++ "\">") := inert_plain (by simp [hbracket])
  intro rest
  have hlist : ("<div class=\"" ++ cls ++ "\">").toList ++ rest =
      '<' :: (("div class=\"" ++ cls ++ "\">").toList ++ rest) := by
    simp
  have hmark : ¬ mark <+: '<' :: (("div class=\"" ++ cls ++ "\">").toList ++ rest) := by
    intro hprefix
    have hopen : mark = "<div class=\"".toList ++ ("error".toList ++ '"' :: mark.drop 18) := rfl
    have hlist' : '<' :: (("div class=\"" ++ cls ++ "\">").toList ++ rest) =
        "<div class=\"".toList ++ (cls.toList ++ '"' :: '>' :: rest) := by
      simp
    rw [hopen, hlist', List.prefix_append_right_inj] at hprefix
    obtain ⟨t, ht⟩ := hprefix
    -- Both classes end with the first quote.
    have hsame := congrArg (List.takeWhile (· ≠ '"')) ht
    rw [List.append_assoc, List.cons_append, takeWhile_quote hquote,
      takeWhile_quote (by decide)] at hsame
    exact hne (String.toList_injective hsame.symm)
  rw [hlist, marked_cons, if_neg hmark, List.nil_append]
  exact hbody.marks rest

theorem marks_div {cls content : String} {w : List String} (h : Without ['<', '>', '"'] cls)
    (hne : cls ≠ "error") (hc : Marks content w) :
    Marks ("<div class=\"" ++ cls ++ "\">" ++ content ++ "</div>") w := by
  have hclose : Inert "</div>" := by decide
  have hall := ((marks_class h hne).append hc).append hclose.marks
  rwa [List.nil_append, List.append_nil] at hall

theorem marks_container {cls content : String} {w : List String} (h : Without ['<', '>', '"'] cls)
    (hne : cls ≠ "error") (hc : Marks content w) : Marks (Node.container cls content) w := by
  have hspace : Inert " " := by decide
  rw [Node.container_eq]
  exact marks_div h hne (hc.around hspace hspace)

theorem marks_link {url content : String} {w : List String} (h : '<' ∉ url.toList)
    (hc : Marks content w) : Marks ("<a href=\"" ++ url ++ "\"> " ++ content ++ " </a>") w := by
  have hopen : Inert "<a href=\"" := by decide
  have hvalue : Inert (url ++ "\"> ") := inert_plain (by simp [h])
  have hclose : Inert " </a>" := by decide
  have heq : "<a href=\"" ++ url ++ "\"> " ++ content ++ " </a>" =
      "<a href=\"" ++ (url ++ "\"> " ++ content ++ " </a>") := by
    simp only [String.append_assoc]
  rw [heq]
  exact hopen.marks.append (hc.around hvalue hclose)

theorem marks_image {title alt url : String} (ht : '<' ∉ title.toList) (ha : '<' ∉ alt.toList)
    (hu : '<' ∉ url.toList) :
    Marks ("<img title=\"" ++ title ++ "\" alt=\"" ++ alt ++ "\" src=\"" ++ url ++ "\" />") [] := by
  have hopen : Inert "<img title=\"" := by decide
  have hvalues : Inert (title ++ "\" alt=\"" ++ alt ++ "\" src=\"" ++ url ++ "\" />") :=
    inert_plain (by simp [ht, ha, hu])
  have heq : "<img title=\"" ++ title ++ "\" alt=\"" ++ alt ++ "\" src=\"" ++ url ++ "\" />" =
      "<img title=\"" ++ (title ++ "\" alt=\"" ++ alt ++ "\" src=\"" ++ url ++ "\" />") := by
    simp only [String.append_assoc]
  rw [heq]
  exact hopen.marks.append hvalues.marks

/-- The row of a kind without a rule has a mark in front of those of its children. -/
theorem marks_unsupported {name content : String} {w : List String} (h : '<' ∉ name.toList)
    (hc : Marks content w) :
    Marks ("<div class=\"error\">Unsupported element: " ++ name ++ " </div> " ++ content)
      (name :: w) := by
  have hname : Marks name [] := (inert_plain h).marks
  have hclose : Inert " </div> " := by decide
  have hbehind := (hname.append hclose.marks).append hc
  intro rest
  have hlist : ("<div class=\"error\">Unsupported element: " ++ name ++ " </div> " ++
      content).toList ++ rest = mark ++ ((name ++ " </div> " ++ content).toList ++ rest) := by
    simp only [String.toList_append, List.append_assoc]
    rfl
  have hfirst : (name ++ " </div> " ++ content).toList ++ rest =
      name.toList ++ (closing ++ (' ' :: (content.toList ++ rest))) := by
    simp only [String.toList_append, List.append_assoc]
    rfl
  rw [hlist, marks_mark, hbehind rest, hfirst, before?_closing h]
  rfl

/-- The row of a kind has the mark of the node, and those of its children behind it. -/
theorem marks_kindRow (n : Node) {content : String} {w : List String}
    (h : ∀ t ∈ n.emitted, Without ['<', '>', '"'] t)
    (hz : n.kind = .zone → n.identifier.map Identifier.name ≠ some "error")
    (hw : n.kind.hides = true → w = []) (hc : n.kind.hides = false → Marks content w) :
    Marks (n.kindRow content) (unruled n ++ w) := by
  have hheading := n.headingName_mem
  have hopening (t : String) (ht : t ∈ n.emitted) : '<' ∉ t.toList :=
    fun hmem => h t ht '<' hmem (by decide)
  obtain ⟨kind, identifier, children, depth, value, alt, title, url, code, lang, label, ordered⟩ := n
  cases kind with
  | blockquote | emphasis | inlineCode | listItem | paragraph | strong | sub | sup | span =>
    exact marks_element (by decide) (hc rfl)
  | heading => exact marks_element hheading (hc rfl)
  | list =>
    have hname : (if ordered then "ol" else "ul") ∈ Node.elements := by cases ordered <;> decide
    exact marks_element hname (hc rfl)
  | lineBreak =>
    have hbreak : Inert "<br>" := by decide
    rw [hw rfl]
    exact hbreak.marks
  | code =>
    have hopen : Inert "<pre><code> " := by decide
    have hclose : Inert " </code></pre>" := by decide
    exact (hc rfl).around hopen hclose
  | image =>
    rw [hw rfl]
    exact marks_image (hopening title (by simp [Node.emitted]))
      (hopening alt (by simp [Node.emitted])) (hopening url (by simp [Node.emitted]))
  | link => exact marks_link (hopening url (by simp [Node.emitted])) (hc rfl)
  | text =>
    rw [hw rfl]
    exact (inert_plain (hopening value (by simp [Node.emitted]))).marks
  | zone =>
    cases identifier with
    | none =>
      have hletters : Without ['<', '>', '"'] "" := by decide
      have hne : "" ≠ "error" := by decide
      exact marks_div hletters hne (hc rfl)
    | some i =>
      have hne : i.name ≠ "error" := fun heq => hz rfl (congrArg some heq)
      exact marks_div (h i.name (by simp [Node.emitted])) hne (hc rfl)
  | thematicBreak =>
    have hrule : Inert "<hr/> " := by decide
    exact hrule.marks.append (hc rfl)
  | unsupported name => exact marks_unsupported (hopening name (by simp [Node.emitted])) (hc rfl)

theorem marks_table :
    (∀ n : Node, Node.Spared ['<', '>', '"'] n.visible → Unforged n.visible →
        Marks n.table (unruledAll n.visible)) ∧
      ∀ ns : List Node, Node.Spared ['<', '>', '"'] (Node.visibleAll ns) →
        Unforged (Node.visibleAll ns) →
          Marks (Node.tableAll ns) (unruledAll (Node.visibleAll ns)) := by
  apply Node.table_rows (R := fun ns s => Unforged ns → Marks s (unruledAll ns))
  · exact fun _ _ => rfl
  · have hline : Inert "\n" := by decide
    exact fun _ => hline.marks
  · intro ns ms s t hs ht h
    obtain ⟨hns, hms⟩ := unforged_append.1 h
    rw [unruledAll_append]
    exact (hs hns).append (ht hms)
  · intro n ns cls s hf hcls hs h
    have hclasses : ∀ cls ∈ ["figure", "title", "center"],
        Without ['<', '>', '"'] cls ∧ cls ≠ "error" := by
      decide
    obtain ⟨hletters, hne⟩ := hclasses cls hcls
    rw [unruledAll_cons, hf]
    exact marks_container hletters hne (hs (unforged_cons.1 h).2)
  · intro n ns s hf hown hhides hs h
    obtain ⟨hzone, hrest⟩ := unforged_cons.1 h
    rw [unruledAll_cons, hf]
    apply marks_kindRow n hown (hzone hf)
    · intro hk
      rw [hhides hk]
      rfl
    · exact fun hk => hs hk hrest

/-! ## The log -/

theorem complaints_logEntries (n : Node) : complaints n.logEntries =
    (unruled n).map fun name =>
      (.warn, "Unsupported element: " ++ name, [("kind", .str name)]) := by
  unfold Node.logEntries unruled
  cases n.kind with
  | heading =>
    by_cases h : 1 ≤ n.depth.toInt ∧ n.depth.toInt ≤ 6 <;> simp [complaints, h]
  | unsupported name => simp [complaints]
  | _ => rfl

/-- What the log of some nodes says of kinds without a rule. -/
theorem complaints_logOf (ns : List Node) : complaints (Node.logOf ns) =
    (unruledAll ns).map fun name =>
      (.warn, "Unsupported element: " ++ name, [("kind", .str name)]) := by
  unfold Node.logOf unruledAll
  rw [complaints, List.filter_flatMap, List.map_flatMap]
  congr 1
  funext n
  exact complaints_logEntries n

theorem told_of_marks {text : String} {ns : List Node} (h : Marks text (unruledAll ns)) :
    Told text (Node.logOf ns) := by
  have hmarked : (behind mark text.toList).map (before? closing) =
      (unruledAll ns).map fun name => some name.toList := h.marked_eq
  constructor
  · have hlength := congrArg List.length hmarked
    rw [List.length_map, List.length_map] at hlength
    rw [complaints_logOf, List.length_map, hlength]
  · have hnames := congrArg (List.map (Option.map fun cs => Json.str (String.ofList cs))) hmarked
    rw [List.map_map, List.map_map] at hnames
    rw [complaints_logOf, List.map_map]
    refine hnames.trans ?_
    apply List.map_congr_left
    intro name _
    simp

/-- If the texts that a tree emits are without brackets and quotes, and no zone has the class of the
marks, then each mark on its page stands for a warning in the log, and each warning about a kind
without a rule for a mark. -/
theorem marks_match_warnings :
    (∀ n : Node, Node.Spared ['<', '>', '"'] n.visible → Unforged n.visible →
        Told n.html n.page.log) ∧
      (∀ c : Content, Node.Spared ['<', '>', '"'] (Node.visibleAll c.children) →
        Unforged (Node.visibleAll c.children) → Told c.html c.page.log) ∧
      ∀ r : ArticleReply, Node.Spared ['<', '>', '"'] (Node.visibleAll r.article.content.children) →
        Unforged (Node.visibleAll r.article.content.children) → Told r.html r.page.log := by
  refine ⟨?_, ?_, ?_⟩
  · intro n h hu
    rw [n.html_eq, Page.log_eq n.warnings_page]
    exact told_of_marks (marks_table.1 n h hu)
  · intro c h hu
    have hlog : c.page.log = Node.logOf (Node.visibleAll c.children) :=
      Page.log_eq (Node.warnings_writeAll c.children)
    rw [c.html_eq, hlog]
    exact told_of_marks (marks_table.2 c.children h hu)
  · intro r h hu
    have hletters : Without ['<', '>', '"'] "article" := by decide
    have hne : "article" ≠ "error" := by decide
    have hframe : r.html =
        Node.container "article" (Node.tableAll r.article.content.children) := by
      apply String.toList_injective
      simp [r.html_eq, Node.container]
    rw [hframe, Page.log_eq r.warnings_page]
    exact told_of_marks (marks_container hletters hne (marks_table.2 _ h hu))

/-- Kinds without a rule in a zone, below a frame and out of sight, and a text that reads like a
mark without being one. -/
def sample : Node :=
  .heading 9 [
    { kind := .zone, identifier := some (.other "INFOBOX"), children := [
      { kind := .unsupported "foot note ", children := [.text "Unsupported element: a "] }] },
    { kind := .unsupported "b", identifier := some .figure,
      children := [.ofKind (.unsupported "")] },
    { kind := .lineBreak, children := [.ofKind (.unsupported "c")] }]

theorem marks_match_warnings_sample :
    ((Node.Spared ['<', '>', '"'] sample.visible ∧ Unforged sample.visible) ∧
        Told sample.html sample.page.log) ∧
      ((Node.Spared ['<', '>', '"'] (Node.visibleAll [sample, sample]) ∧
          Unforged (Node.visibleAll [sample, sample])) ∧
        Told (Content.html { children := [sample, sample] })
          (Content.page { children := [sample, sample] }).log) ∧
      (Node.Spared ['<', '>', '"'] (Node.visibleAll [sample]) ∧
          Unforged (Node.visibleAll [sample])) ∧
        Told (ArticleReply.html { article := { content := { children := [sample] } } })
          (ArticleReply.page { article := { content := { children := [sample] } } }).log := by
  have hone : Node.Spared ['<', '>', '"'] sample.visible ∧ Unforged sample.visible := by decide
  have hpair : Node.Spared ['<', '>', '"'] (Node.visibleAll [sample, sample]) ∧
      Unforged (Node.visibleAll [sample, sample]) := by decide
  have hlist : Node.Spared ['<', '>', '"'] (Node.visibleAll [sample]) ∧
      Unforged (Node.visibleAll [sample]) := by decide
  exact ⟨⟨hone, marks_match_warnings.1 sample hone.1 hone.2⟩,
    ⟨hpair, marks_match_warnings.2.1 _ hpair.1 hpair.2⟩, hlist,
    marks_match_warnings.2.2 _ hlist.1 hlist.2⟩

/-- A zone with the class of the marks, around a text that goes on like one. -/
def forged : Node :=
  { kind := .zone, identifier := some (.other "error"),
    children := [.text "Unsupported element: a"] }

example : Node.Spared ['<', '>', '"'] forged.visible ∧
    (behind mark forged.html.toList).length = 1 ∧ (complaints forged.page.log).length = 0 := by
  decide

end Gazette.Markers
