import Gazette.Tree.Node

/-! # What each node puts on the page

The markup of a node by itself, and the warning it gives. Texts are put on the page as they are. -/
namespace Gazette

/-- Either a whole text, the children being left out, or what stands before and after them. -/
inductive Markup where
  | leaf (text : String)
  | around (before after : String)
  deriving DecidableEq, Repr

inductive Warning where
  | headingDepth (depth : Int64)
  | unsupported (name : String)
  deriving DecidableEq, Repr

/-- The levels of headings. -/
def isLevel (depth : Int64) : Bool := 1 ≤ depth && depth ≤ 6

namespace Node

/-- The class of the frame around the children, if the identifier asks for one. -/
def frame? (n : Node) : Option String := n.identifier.bind Identifier.frame?

/-- A heading with a depth that is no level becomes one of the first level. -/
def level (n : Node) : String := if isLevel n.depth then toString n.depth.toInt else "1"

/-- The class of a zone. -/
def zoneClass (n : Node) : String := (n.identifier.map Identifier.name).getD ""

/-- The markup that belongs to the kind. -/
def kindMarkup (n : Node) : Markup :=
  match n.kind with
  | .blockquote => .around "<blockquote> " " </blockquote>"
  | .lineBreak => .leaf "<br>"
  | .code => .around "<pre><code> " " </code></pre>"
  | .emphasis => .around "<em> " " </em>"
  | .heading => .around ("<h" ++ n.level ++ "> ") (" </h" ++ n.level ++ ">")
  | .image =>
    .leaf ("<img title=\"" ++ n.title ++ "\" alt=\"" ++ n.alt ++ "\" src=\"" ++ n.url ++ "\" />")
  | .inlineCode => .around "<code> " " </code>"
  | .link => .around ("<a href=\"" ++ n.url ++ "\"> ") " </a>"
  | .list => if n.ordered then .around "<ol> " " </ol>" else .around "<ul> " " </ul>"
  | .listItem => .around "<li> " " </li>"
  | .paragraph => .around "<p> " " </p>"
  | .strong => .around "<strong> " " </strong>"
  | .sub => .around "<sub> " " </sub>"
  | .sup => .around "<sup> " " </sup>"
  | .span => .around "<span> " " </span>"
  | .text => .leaf n.value
  | .zone => .around ("<div class=\"" ++ n.zoneClass ++ "\">") "</div>"
  | .thematicBreak => .around "<hr/> " ""
  | .unsupported name =>
    .around ("<div class=\"error\">Unsupported element: " ++ name ++ " </div> ") ""

/-- The markup of a node: a frame if its identifier asks for one, or else that of the kind. -/
def markup (n : Node) : Markup :=
  match n.frame? with
  | some cls => .around ("<div class=\"" ++ cls ++ "\"> ") " </div>"
  | none => n.kindMarkup

/-- The warning a node gives by itself; inside a frame of its own it gives none. -/
def warning? (n : Node) : Option Warning :=
  match n.frame?, n.kind with
  | none, .heading => if isLevel n.depth then none else some (.headingDepth n.depth)
  | none, .unsupported name => some (.unsupported name)
  | _, _ => none

end Node
end Gazette
