import Gazette.Json.Basic
import Gazette.Decimal.Notation
import Gazette.Text.Basic

/-! # Values written as texts

Without any blanks. Inside strings only the quote, the backslash and the controls below U+0020 are
escaped. -/
namespace Gazette.Json
open Gazette.Text

/-- How one character is written inside a string. -/
def escapedChar (c : Char) : List Char :=
  match c with
  | '"' => ['\\', '"']
  | '\\' => ['\\', '\\']
  | '\x08' => ['\\', 'b']
  | '\x0c' => ['\\', 'f']
  | '\n' => ['\\', 'n']
  | '\r' => ['\\', 'r']
  | '\t' => ['\\', 't']
  | c =>
    if c.toNat < 0x20 then ['\\', 'u', '0', '0', hexDigit (c.toNat / 16), hexDigit (c.toNat % 16)]
    else [c]

def writtenString (s : String) : List Char := '"' :: (s.toList.flatMap escapedChar ++ ['"'])

def writtenInt (n : Int) : List Char :=
  match n with
  | .ofNat n => Nat.toDigits 10 n
  | .negSucc n => '-' :: Nat.toDigits 10 (n + 1)

mutual
/-- The text of a value, in front of given characters. -/
def write : Json → List Char → List Char
  | .null, k => 'n' :: 'u' :: 'l' :: 'l' :: k
  | .bool true, k => 't' :: 'r' :: 'u' :: 'e' :: k
  | .bool false, k => 'f' :: 'a' :: 'l' :: 's' :: 'e' :: k
  | .int n, k => writtenInt n ++ k
  | .float x, k => (Decimal.ofFloat x).toList ++ k
  | .str s, k => writtenString s ++ k
  | .arr [], k => '[' :: ']' :: k
  | .arr (v :: vs), k => '[' :: v.write (writeItems vs k)
  | .obj [], k => '{' :: '}' :: k
  | .obj ((key, v) :: es), k => '{' :: (writtenString key ++ ':' :: v.write (writeEntries es k))
  termination_by structural v => v
/-- The text of further items up to the closing bracket. -/
def writeItems : List Json → List Char → List Char
  | [], k => ']' :: k
  | v :: vs, k => ',' :: v.write (writeItems vs k)
  termination_by structural vs => vs
/-- The text of further entries up to the closing brace. -/
def writeEntries : List (String × Json) → List Char → List Char
  | [], k => '}' :: k
  | (key, v) :: es, k => ',' :: (writtenString key ++ ':' :: v.write (writeEntries es k))
  termination_by structural es => es
end

/-- The text of a value. -/
def print (v : Json) : String := String.ofList (v.write [])

end Gazette.Json
