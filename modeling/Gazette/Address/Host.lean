import Gazette.Address.Numeric
import Gazette.Address.Percent

/-! # Hosts of addresses -/
namespace Gazette.Address
open Gazette.Text

/-- How a name with letters outside ASCII is written in ASCII, if it is a name. The rules are a
standard of their own, with tables of all scripts, and an address is read by any such rules. -/
abbrev Naming := List Char → Option (List Char)

/-- The rules by which no such name is one. -/
def Naming.ascii : Naming := fun _ => none

inductive Host where
  | name (letters : String)
  | four (bytes : Nat)
  | eight (pieces : List Nat)
  deriving DecidableEq, Repr

namespace Host

/-- Characters that cannot stand in a name: controls, the blank, and those with a meaning of their
own. -/
def isForbidden (c : Char) : Bool :=
  c.toNat ≤ 0x20 || c.toNat == 0x7f ||
    c ∈ ['#', '%', '/', ':', '<', '>', '?', '@', '[', '\\', ']', '^', '|']

/-- Whether a name is in ASCII and has no label that stands for one in another script. -/
def isAscii (cs : List Char) : Bool :=
  cs.all (·.toNat < 0x80) &&
    (fields (· = '.') cs).all fun l => !"xn--".toList.isPrefixOf (l.map Char.toLower)

/-- The name in ASCII and in small letters. -/
def ascii? (naming : Naming) (cs : List Char) : Option (List Char) :=
  if isAscii cs then some (cs.map Char.toLower) else naming cs

/-- The name that some bytes spell. -/
def name? (naming : Naming) (bytes : List UInt8) : Option (List Char) := do
  let cs ← Utf8.strict? bytes
  let name ← ascii? naming cs
  if name = [] ∨ name.any isForbidden then none else some name

/-- The host a text names. -/
def ofText? (naming : Naming) (cs : List Char) : Option Host :=
  match cs with
  | '[' :: cs =>
    if cs.getLast? = some ']' then (eightPieces? cs.dropLast).map .eight else none
  | cs => do
    let name ← name? naming (unpercent cs)
    if endsInNumber name then (fourBytes? name).map .four
    else some (.name (String.ofList name))

/-- The host as it stands in an address. -/
def text : Host → String
  | .name letters => letters
  | .four bytes => String.ofList (fourText bytes)
  | .eight pieces => String.ofList (eightText pieces)

/-- Not every name can stand in a request. -/
def isPlain (h : Host) : Bool := h.text.toList.all (· ∉ ['"', '\x60', '{', '}'])

end Host
end Gazette.Address
