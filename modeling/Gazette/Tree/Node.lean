import Gazette.Tree.Kind

/-! # The content tree of an article -/
namespace Gazette

/-- An element of the tree. Besides kind, identifier and children, a field has a meaning for some
kinds only, and is zero or empty elsewhere. -/
structure Node where
  kind : Kind := default
  identifier : Option Identifier := none
  children : List Node := []
  /-- Level of a heading, from 1 to 6. -/
  depth : Int64 := 0
  /-- The letters of a text. -/
  value : String := ""
  alt : String := ""
  title : String := ""
  /-- Where an image comes from, or a link leads to. -/
  url : String := ""
  code : String := ""
  lang : String := ""
  label : String := ""
  /-- Whether a list is numbered. -/
  ordered : Bool := false

namespace Node

instance : Inhabited Node := ⟨{}⟩

def ofKind (kind : Kind) : Node := { kind }

def text (value : String) : Node := { kind := .text, value }

def heading (depth : Int64) (children : List Node) : Node := { kind := .heading, depth, children }

def list (ordered : Bool) (children : List Node) : Node := { kind := .list, ordered, children }

def link (url : String) (children : List Node) : Node := { kind := .link, url, children }

def image (url alt title : String) : Node := { kind := .image, url, alt, title }

mutual
/-- Whether two trees agree in every field of every node. -/
def same : Node → Node → Bool
  | ⟨kind, identifier, children, depth, value, alt, title, url, code, lang, label, ordered⟩,
    ⟨kind', identifier', children', depth', value', alt', title', url', code', lang', label',
      ordered'⟩ =>
    kind = kind' && identifier = identifier' && sameAll children children' && depth = depth' &&
      value = value' && alt = alt' && title = title' && url = url' && code = code' &&
      lang = lang' && label = label' && ordered = ordered'
  termination_by structural n => n
def sameAll : List Node → List Node → Bool
  | [], [] => true
  | n :: ns, m :: ms => n.same m && sameAll ns ms
  | _, _ => false
  termination_by structural ns => ns
end

mutual
theorem same_iff : ∀ n m : Node, n.same m = true ↔ n = m
  | ⟨_, _, children, _, _, _, _, _, _, _, _, _⟩, ⟨_, _, children', _, _, _, _, _, _, _, _, _⟩ => by
    simp [same, sameAll_iff children children', and_assoc]
  termination_by structural n => n
theorem sameAll_iff : ∀ ns ms : List Node, sameAll ns ms = true ↔ ns = ms
  | [], [] => by simp [sameAll]
  | [], _ :: _ => by simp [sameAll]
  | _ :: _, [] => by simp [sameAll]
  | n :: ns, m :: ms => by simp [sameAll, same_iff n m, sameAll_iff ns ms]
  termination_by structural ns => ns
end

instance : DecidableEq Node := fun n m => decidable_of_iff _ (same_iff n m)

mutual
/-- How many nodes stand below one another at most. -/
def height : Node → Nat
  | { children, .. } => heightAll children + 1
  termination_by structural n => n
def heightAll : List Node → Nat
  | [] => 0
  | n :: ns => max n.height (heightAll ns)
  termination_by structural ns => ns
end

end Node
end Gazette
