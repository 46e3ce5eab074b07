/-! # Kinds and identifiers of nodes

Both are open: a name without a meaning of its own is kept as it is. -/
namespace Gazette

/-- What a node is in the text. -/
inductive Kind where
  | blockquote | lineBreak | code | emphasis | heading | image | inlineCode | link | list | listItem
  | paragraph | strong | sub | sup | span | text | zone | thematicBreak
  | unsupported (name : String)
  deriving DecidableEq, Repr

namespace Kind

/-- The kinds that have a rule for the page. -/
def supported : List Kind :=
  [.blockquote, .lineBreak, .code, .emphasis, .heading, .image, .inlineCode, .link, .list,
   .listItem, .paragraph, .strong, .sub, .sup, .span, .text, .zone, .thematicBreak]

/-- The name of a kind in documents. -/
def name : Kind → String
  | .blockquote => "blockquote"
  | .lineBreak => "break"
  | .code => "code"
  | .emphasis => "emphasis"
  | .heading => "heading"
  | .image => "image"
  | .inlineCode => "inlineCode"
  | .link => "link"
  | .list => "list"
  | .listItem => "listItem"
  | .paragraph => "paragraph"
  | .strong => "strong"
  | .sub => "sub"
  | .sup => "sup"
  | .span => "span"
  | .text => "text"
  | .zone => "zone"
  | .thematicBreak => "thematicBreak"
  | .unsupported name => name

/-- The kind of a name; older documents write inline code in lower case. -/
def ofName (name : String) : Kind :=
  if name = "inlinecode" then .inlineCode
  else (supported.find? fun kind => kind.name = name).getD (.unsupported name)

instance : Inhabited Kind := ⟨.unsupported ""⟩

theorem ofName_name {kind : Kind} (h : kind ∈ supported) : ofName kind.name = kind := by
  revert kind; decide

theorem name_ofName {name : String} (h : name ≠ "inlinecode") : (ofName name).name = name := by
  unfold ofName
  rw [if_neg h]
  cases e : supported.find? fun kind => kind.name = name with
  | none => rfl
  | some kind => simpa using List.find?_some e

/-- A kind comes from its name unless it is a recognised name kept as unsupported. -/
theorem ofName_eq_or (name : String) :
    ofName name ∈ supported ∨ ofName name = .unsupported name := by
  unfold ofName
  split
  · exact .inl (by decide)
  · cases h : supported.find? fun kind => kind.name = name with
    | none => simp
    | some kind => exact .inl (List.mem_of_find?_eq_some h)

end Kind

/-- A second tag of a node. Three of them put the children into a frame, whatever the kind. -/
inductive Identifier where
  | figure | title | center
  | other (name : String)
  deriving DecidableEq, Repr

namespace Identifier

/-- The identifiers that replace the rule of the kind. -/
def frames : List Identifier := [.figure, .title, .center]

def name : Identifier → String
  | .figure => "FIGURE"
  | .title => "TITLE"
  | .center => "CENTER"
  | .other name => name

def ofName (name : String) : Identifier :=
  (frames.find? fun i => i.name = name).getD (.other name)

/-- The class of the frame. -/
def frame? : Identifier → Option String
  | .figure => some "figure"
  | .title => some "title"
  | .center => some "center"
  | .other _ => none

theorem ofName_name {i : Identifier} (h : i ∈ frames) : ofName i.name = i := by
  revert i; decide

theorem name_ofName (name : String) : (ofName name).name = name := by
  unfold ofName
  cases e : frames.find? fun i => i.name = name with
  | none => rfl
  | some i => simpa using List.find?_some e

end Identifier
end Gazette
