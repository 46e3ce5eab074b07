import Gazette.Json.Basic
import Gazette.Json.Numeral
import Gazette.Text.Basic

/-! # JSON texts as they stand

A draft is what a text says, in the order of the text, up to the place where it stops being JSON.
Repeated keys are kept. It also holds what has the form of JSON and yet cannot be taken as a value:
half of a surrogate pair, a number too large, or brackets nested too deep. Such a flaw matters only
to who reads the value, while a break ends the text. -/
namespace Gazette.Json
open Gazette.Text

inductive Draft where
  | null
  | bool (b : Bool)
  | int (n : Int)
  | float (x : Float)
  | str (s : String)
  | flawed (flaw : Break)
  | broken (stop : Break)
  | arr (flaw : Option Break) (items : List Draft) (stop : Option Break)
  | obj (flaw : Option Break) (entries : List (Except Break String × Draft)) (stop : Option Break)

/-- Something read, and either the text behind it or the break that ended the reading. -/
abbrev Reading (α : Type) := α × Except Break (List Char)

def stopOf : Except Break (List Char) → Option Break
  | .ok _ => none
  | .error stop => some stop

namespace Draft

/-- Blanks between the parts of a text. -/
def isSpace (c : Char) : Bool := c = ' ' || c = '\n' || c = '\t' || c = '\r'

def skip (cs : List Char) : List Char := cs.dropWhile isSpace

/-- The fault of a text that does not begin with four hexadecimal digits; four bytes of it are
read. -/
def noHex (cs : List Char) : Break :=
  if Utf8.size cs < 4 then .here .endInString [] else ⟨.badEscape, Utf8.size cs - 4⟩

/-- Four hexadecimal digits. -/
def takeHex : List Char → Except Break (Nat × List Char)
  | a :: b :: c :: d :: rest =>
    match hexValue? a, hexValue? b, hexValue? c, hexValue? d with
    | some a, some b, some c, some d => .ok (((a * 16 + b) * 16 + c) * 16 + d, rest)
    | _, _, _, _ => .error (noHex (a :: b :: c :: d :: rest))
  | cs => .error (noHex cs)

/-- The character of a one-letter escape. -/
def plainEscape? : Char → Option Char
  | '"' => some '"'
  | '\\' => some '\\'
  | '/' => some '/'
  | 'b' => some '\x08'
  | 'f' => some '\x0c'
  | 'n' => some '\n'
  | 'r' => some '\r'
  | 't' => some '\t'
  | _ => none

/-- A string under way: its characters in reverse, or its first flaw. -/
abbrev Spelled := Except Break (List Char)

def Spelled.push (s : Spelled) (c : Char) : Spelled := s.map (c :: ·)

def Spelled.spoil (s : Spelled) (flaw : Break) : Spelled :=
  match s with
  | .ok _ => .error flaw
  | .error first => .error first

/-- The second half of a surrogate pair, if it comes next. -/
def takeLow? (rest : List Char) : Option (Nat × List Char) :=
  match rest with
  | '\\' :: 'u' :: rest =>
    match takeHex rest with
    | .ok (low, rest) => if 0xdc00 ≤ low ∧ low ≤ 0xdfff then some (low, rest) else none
    | .error _ => none
  | _ => none

/-- The flaw of a first half without a second. -/
def noLow (rest : List Char) : Break :=
  match rest with
  | '\\' :: 'u' :: rest =>
    match takeHex rest with
    | .ok (_, rest) => .here .loneSurrogate rest
    | .error stop => stop
  | '\\' :: rest => .here .endInSurrogates rest
  | _ => .here .endInSurrogates rest

/-- Reads on from inside a string to behind its closing quote. -/
def takeString : Nat → Spelled → List Char → Except Break (Spelled × List Char)
  | 0, _, cs => .error (.here .endInString cs)
  | fuel + 1, s, cs =>
    match cs with
    | [] => .error (.here .endInString [])
    | '"' :: rest => .ok (s, rest)
    | '\\' :: 'u' :: rest => do
      let (n, rest) ← takeHex rest
      if 0xdc00 ≤ n ∧ n ≤ 0xdfff then
        takeString fuel (s.spoil (.here .loneSurrogate rest)) rest
      else if 0xd800 ≤ n ∧ n ≤ 0xdbff then
        match takeLow? rest with
        | some (low, rest) =>
          takeString fuel (s.push (Char.ofNat ((n - 0xd800) * 0x400 + (low - 0xdc00) + 0x10000)))
            rest
        | none => takeString fuel (s.spoil (noLow rest)) rest
      else takeString fuel (s.push (Char.ofNat n)) rest
    | '\\' :: c :: rest =>
      match plainEscape? c with
      | some d => takeString fuel (s.push d) rest
      | none => .error (.ahead .badEscape (c :: rest))
    | ['\\'] => .error (.here .endInString [])
    | c :: rest =>
      if c.toNat < 0x20 then .error (.here .control rest) else takeString fuel (s.push c) rest

/-- The string whose opening quote has been read. -/
def string (cs : List Char) : Except Break (Except Break String × List Char) := do
  let (s, rest) ← takeString (cs.length + 1) (.ok []) cs
  .ok (s.map fun cs => String.ofList cs.reverse, rest)

/-- The rest of a keyword. -/
def takeWord : List Char → List Char → Except Break (List Char)
  | [], cs => .ok cs
  | _ :: _, [] => .error (.here .endInValue [])
  | w :: ws, c :: cs => if c = w then takeWord ws cs else .error (.ahead .noKeyword (c :: cs))

def stopAt (stop : Break) : Reading Draft := (.broken stop, .error stop)

def word (rest : List Char) (value : Draft) (cs : List Char) : Reading Draft :=
  match takeWord rest cs with
  | .ok cs => (value, .ok cs)
  | .error stop => stopAt stop

def number (cs : List Char) : Reading Draft :=
  match Numeral.take cs with
  | .error stop => stopAt stop
  | .ok (n, rest) =>
    match n.value? with
    | some (.int n) => (.int n, .ok rest)
    | some (.float x) => (.float x, .ok rest)
    | none => (.flawed (.here .tooLarge rest), .ok rest)

def text (cs : List Char) : Reading Draft :=
  match string cs with
  | .error stop => stopAt stop
  | .ok (.ok s, rest) => (.str s, .ok rest)
  | .ok (.error flaw, rest) => (.flawed flaw, .ok rest)

/-- Opening a bracket when no level is left is a flaw. -/
def tooDeep? (room : Nat) (cs : List Char) : Option Break :=
  if room = 0 then some (.ahead .tooDeep cs) else none

mutual
/-- Reads a value; `room` more levels of brackets may be opened. -/
def value (room : Nat) : Nat → List Char → Reading Draft
  | 0, cs => stopAt (.ahead .endInValue cs)
  | fuel + 1, cs =>
    match skip cs with
    | [] => stopAt (.ahead .endInValue [])
    | 'n' :: rest => word ['u', 'l', 'l'] .null rest
    | 't' :: rest => word ['r', 'u', 'e'] (.bool true) rest
    | 'f' :: rest => word ['a', 'l', 's', 'e'] (.bool false) rest
    | '"' :: rest => text rest
    | '[' :: rest =>
      match skip rest with
      | ']' :: rest' => (.arr (tooDeep? room ('[' :: rest)) [] none, .ok rest')
      | [] => (.arr (tooDeep? room ('[' :: rest)) [] (some (.ahead .endInList [])),
          .error (.ahead .endInList []))
      | rest' =>
        let (ds, after) := items (room - 1) fuel rest'
        (.arr (tooDeep? room ('[' :: rest)) ds (stopOf after), after)
    | '{' :: rest =>
      match skip rest with
      | '}' :: rest' => (.obj (tooDeep? room ('{' :: rest)) [] none, .ok rest')
      | [] => (.obj (tooDeep? room ('{' :: rest)) [] (some (.ahead .endInObject [])),
          .error (.ahead .endInObject []))
      | rest' =>
        let (es, after) := entries (room - 1) fuel rest'
        (.obj (tooDeep? room ('{' :: rest)) es (stopOf after), after)
    | c :: rest =>
      if c = '-' ∨ c.isDigit then number (c :: rest) else stopAt (.ahead .noValue (c :: rest))

/-- Reads the items of an array from one item on. -/
def items (room : Nat) : Nat → List Char → Reading (List Draft)
  | 0, cs => ([], .error (.ahead .endInList cs))
  | fuel + 1, cs =>
    match value room fuel cs with
    | (d, .error stop) => ([d], .error stop)
    | (d, .ok rest) =>
      match skip rest with
      | ']' :: rest => ([d], .ok rest)
      | ',' :: rest =>
        match skip rest with
        | [] => ([d], .error (.ahead .endInValue []))
        | ']' :: rest => ([d], .error (.ahead .commaAtEnd (']' :: rest)))
        | rest => let (ds, after) := items room fuel rest; (d :: ds, after)
      | [] => ([d], .error (.ahead .endInList []))
      | rest => ([d], .error (.ahead .noCommaInList rest))

/-- Reads the entries of an object from a key on. -/
def entries (room : Nat) : Nat → List Char → Reading (List (Except Break String × Draft))
  | 0, cs => ([], .error (.ahead .endInObject cs))
  | fuel + 1, cs =>
    match cs with
    | '"' :: rest =>
      match string rest with
      | .error stop => ([], .error stop)
      | .ok (key, rest) =>
        match skip rest with
        | ':' :: rest =>
          match value room fuel rest with
          | (d, .error stop) => ([(key, d)], .error stop)
          | (d, .ok rest) =>
            match skip rest with
            | '}' :: rest => ([(key, d)], .ok rest)
            | ',' :: rest =>
              match skip rest with
              | [] => ([(key, d)], .error (.ahead .endInValue []))
              | '}' :: rest => ([(key, d)], .error (.ahead .commaAtEnd ('}' :: rest)))
              | rest => let (es, after) := entries room fuel rest; ((key, d) :: es, after)
            | [] => ([(key, d)], .error (.ahead .endInObject []))
            | rest => ([(key, d)], .error (.ahead .noCommaInObject rest))
        | [] =>
          let stop := Break.ahead .endInObject []
          ([(key, .broken stop)], .error stop)
        | rest =>
          let stop := Break.ahead .noColon rest
          ([(key, .broken stop)], .error stop)
    | rest => ([], .error (.ahead .noKey rest))
end

/-- The draft of a whole text, and what stops the reading behind the value if anything does. -/
def ofText (room : Nat) (cs : List Char) : Draft × Option Break :=
  match value room (2 * cs.length + 2) cs with
  | (d, .error stop) => (d, some stop)
  | (d, .ok rest) =>
    match skip rest with
    | [] => (d, none)
    | rest => (d, some (.ahead .surplus rest))

end Draft
end Gazette.Json
