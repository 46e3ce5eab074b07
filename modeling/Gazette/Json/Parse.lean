import Gazette.Json.Draft

/-! # Texts read as values

A value is taken from a draft that has neither a flaw nor a break. Of several entries with one key
the last counts. -/
namespace Gazette.Json
open Gazette.Text

/-- How many levels of brackets a text may have. -/
def levels : Nat := 127

def refuse : Option Break → Except Break Unit
  | none => .ok ()
  | some b => .error b

mutual
/-- The value of a draft, or its first flaw or break. -/
def Draft.toJson : Draft → Except Break Json
  | .null => .ok .null
  | .bool b => .ok (.bool b)
  | .int n => .ok (.int n)
  | .float x => .ok (.float x)
  | .str s => .ok (.str s)
  | .flawed flaw => .error flaw
  | .broken stop => .error stop
  | .arr flaw items stop => do
    refuse flaw
    let vs ← Draft.toItems items
    refuse stop
    .ok (.arr vs)
  | .obj flaw entries stop => do
    refuse flaw
    let es ← Draft.toEntries entries
    refuse stop
    .ok (ofEntries es)
  termination_by structural d => d
def Draft.toItems : List Draft → Except Break (List Json)
  | [] => .ok []
  | d :: ds => do
    let v ← d.toJson
    let vs ← toItems ds
    .ok (v :: vs)
  termination_by structural ds => ds
def Draft.toEntries : List (Except Break String × Draft) → Except Break (List (String × Json))
  | [] => .ok []
  | (key, d) :: es => do
    let key ← key
    let v ← d.toJson
    let es ← toEntries es
    .ok ((key, v) :: es)
  termination_by structural es => es
end

/-- The break that ends a draft, if one does; flaws are passed over. -/
def Draft.stop? : Draft → Option Break
  | .broken stop => some stop
  | .arr _ _ stop => stop
  | .obj _ _ stop => stop
  | _ => none

/-- Reads a text that holds one value, with at most `room` levels of brackets. -/
def parseWithin (room : Nat) (text : List Char) : Except SyntaxFault Json :=
  let (d, tail) := Draft.ofText room text
  match d.toJson, tail with
  | .error b, _ => .error (b.fault text)
  | .ok _, some b => .error (b.fault text)
  | .ok v, none => .ok v

/-- Reads a text that holds one value. -/
def parse (text : String) : Except SyntaxFault Json := parseWithin levels text.toList

/-- What stands behind the first string with a byte in no character. The reading is outside of
strings, or in one with or without such a byte so far. -/
def behindRagged? : Option Bool → List (Option Char) → Option (List (Option Char))
  | _, [] => none
  | none, c :: cs => behindRagged? (if c = some '"' then some false else none) cs
  | some ragged, some '"' :: cs => if ragged then some cs else behindRagged? none cs
  | some ragged, some '\\' :: some 'u' :: _ :: _ :: _ :: _ :: cs => behindRagged? (some ragged) cs
  | some _, some '\\' :: some 'u' :: _ => none
  | some ragged, some '\\' :: _ :: cs => behindRagged? (some ragged) cs
  | some ragged, c :: cs => behindRagged? (some (ragged || c.isNone)) cs

/-- The first fault of bytes that are not in UTF-8. Outside of strings a byte in no character is as
wrong as any letter, and in a string it shows when the closing quote has been read. -/
def raggedFault (pieces : List (Option Char)) : SyntaxFault :=
  let filled (cs : List (Option Char)) : List Char := cs.map (·.getD '\x7f')
  let text := filled pieces
  let found := (behindRagged? none pieces).map fun rest =>
    (Break.here .badBytes (filled rest)).fault text
  match parseWithin levels text, found with
  | .error f, some g => if f.before g then f else g
  | .error f, none => f
  | .ok _, g => g.getD ((Break.here .badBytes []).fault text)

/-- Reads bytes that hold one value in UTF-8. -/
def parseBytes (bytes : List UInt8) : Except SyntaxFault Json :=
  match Utf8.strict? bytes with
  | some text => parseWithin levels text
  | none => .error (raggedFault (Utf8.piecesFrom 0 bytes))

end Gazette.Json
