import Gazette.Article
import Gazette.Page.Markup

/-! # Articles as pages

A page is written from left to right, and warnings are noted on the way: a node's own before those
of its children. Every child is followed by a line feed. -/
namespace Gazette

/-- A page under way. -/
structure Page where
  text : String := ""
  warnings : Array Warning := #[]

namespace Page

def add (p : Page) (text : String) : Page := { p with text := p.text ++ text }

def note (p : Page) : Option Warning → Page
  | none => p
  | some w => { p with warnings := p.warnings.push w }

@[simp] theorem text_add (p : Page) (text : String) : (p.add text).text = p.text ++ text := rfl

@[simp] theorem warnings_add (p : Page) (text : String) : (p.add text).warnings = p.warnings := rfl

@[simp] theorem text_note (p : Page) (w : Option Warning) : (p.note w).text = p.text := by
  cases w <;> rfl

@[simp] theorem warnings_note (p : Page) (w : Option Warning) :
    (p.note w).warnings.toList = p.warnings.toList ++ w.toList := by
  cases w <;> simp [note]

end Page

namespace Node

mutual
/-- Writes a node at the end of a page. -/
def write : Node → Page → Page
  | n@{ children, .. }, p =>
    match n.markup with
    | .leaf text => (p.note n.warning?).add text
    | .around before after => (writeAll children ((p.note n.warning?).add before)).add after
  termination_by structural n => n
/-- Writes nodes one after the other, each with a line feed. -/
def writeAll : List Node → Page → Page
  | [], p => p
  | n :: ns, p => writeAll ns ((n.write p).add "\n")
  termination_by structural ns => ns
end

theorem write_eq (n : Node) (p : Page) : n.write p =
    match n.markup with
    | .leaf text => (p.note n.warning?).add text
    | .around before after => (writeAll n.children ((p.note n.warning?).add before)).add after := by
  cases n; rfl

/-- The page of a node alone. -/
def page (n : Node) : Page := n.write {}

/-- The page of the children of a node. -/
def childrenPage (n : Node) : Page := writeAll n.children {}

end Node

def Content.page (c : Content) : Page := Node.writeAll c.children {}

/-- The page of the text, without a frame around it. -/
def Article.page (a : Article) : Page := a.content.page

/-- The page of an article, in a frame of its own. -/
def ArticleReply.page (r : ArticleReply) : Page :=
  (Node.writeAll r.article.content.children { text := "<div class=\"article\"> " }).add " </div>"

def Node.html (n : Node) : String := n.page.text

def Content.html (c : Content) : String := c.page.text

def Article.html (a : Article) : String := a.page.text

def ArticleReply.html (r : ArticleReply) : String := r.page.text

end Gazette
