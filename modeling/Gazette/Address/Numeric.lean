import Gazette.Text.Basic

/-! # Numeric hosts

A host of four bytes is written as up to four numbers, of which the last fills the bytes that are
left; its own form is four decimal numbers. A host of sixteen bytes is written as eight pieces in
hexadecimal, of which one run of zeros may be left out. -/
namespace Gazette.Address
open Gazette.Text

/-- The number of some digits in a base. -/
def digits? (base : Nat) (ds : List Char) : Option Nat :=
  ds.foldlM (fun n d => do
    let v ← hexValue? d
    if v < base then some (base * n + v) else none) 0

/-- A number in decimal, in octal behind a zero, or in hexadecimal behind `0x`. -/
def number? : List Char → Option Nat
  | [] => none
  | '0' :: 'x' :: ds | '0' :: 'X' :: ds => digits? 16 ds
  | '0' :: d :: ds => digits? 8 (d :: ds)
  | ds => digits? 10 ds

/-- The labels of a name; a point at the end begins none. -/
def labels (cs : List Char) : List (List Char) :=
  match (fields (· = '.') cs).reverse with
  | [] :: (l :: ls) => (l :: ls).reverse
  | ls => ls.reverse

/-- Whether a name has to be the four bytes of a host: its last label has only digits or is a
number. -/
def endsInNumber (cs : List Char) : Bool :=
  match (labels cs).getLast? with
  | none | some [] => false
  | some l => l.all Char.isDigit || (number? l).isSome

/-- The four bytes as one number. All numbers but the last are bytes. -/
def assemble : List Nat → Option Nat
  | [] => none
  | ns =>
    let last := ns.getLast?.getD 0
    let room := Nat.pow 256 (5 - ns.length)
    if 4 < ns.length ∨ room ≤ last ∨ ns.dropLast.any (255 < ·) then none
    else some (ns.dropLast.foldl (fun n b => 256 * n + b) 0 * room + last)

/-- The four bytes a name stands for. -/
def fourBytes? (cs : List Char) : Option Nat := ((labels cs).mapM number?).bind assemble

def decimal (n : Nat) : List Char := Nat.toDigits 10 n

/-- Four decimal numbers with points between them. -/
def fourText (n : Nat) : List Char :=
  decimal (n / 0x1000000 % 256) ++ '.' :: decimal (n / 0x10000 % 256) ++
    '.' :: decimal (n / 256 % 256) ++ '.' :: decimal (n % 256)

/-- One to four hexadecimal digits. -/
def piece? (ds : List Char) : Option Nat :=
  if ds = [] ∨ 4 < ds.length then none else digits? 16 ds

/-- A byte in decimal without zeros in front. -/
def byte? (ds : List Char) : Option Nat :=
  match ds with
  | [] => none
  | '0' :: _ :: _ => none
  | ds => (digits? 10 ds).filter (· ≤ 255)

/-- Four bytes in decimal, as two pieces. -/
def bytePieces? (cs : List Char) : Option (List Nat) := do
  match ← (fields (· = '.') cs).mapM byte? with
  | [a, b, c, d] => some [256 * a + b, 256 * c + d]
  | _ => none

/-- The pieces at the end of a host; the last two may be written as four bytes. -/
def lastPieces? : List (List Char) → Option (List Nat)
  | [] => some []
  | [l] => if '.' ∈ l then bytePieces? l else (piece? l).map ([·])
  | l :: ls => do
    let n ← piece? l
    let ns ← lastPieces? ls
    some (n :: ns)

/-- What stands before and after the first double colon. -/
def atDoubleColon? : List Char → Option (List Char × List Char)
  | ':' :: ':' :: cs => some ([], cs)
  | [] => none
  | c :: cs => (atDoubleColon? cs).map fun (before, after) => (c :: before, after)

/-- The fields between colons, none in an empty text. -/
def colonFields (cs : List Char) : List (List Char) := if cs = [] then [] else fields (· = ':') cs

/-- The eight pieces a text stands for. A double colon stands for at least one zero. -/
def eightPieces? (cs : List Char) : Option (List Nat) :=
  match atDoubleColon? cs with
  | none => (lastPieces? (colonFields cs)).filter (·.length = 8)
  | some (before, after) => do
    let first ← (colonFields before).mapM piece?
    let last ← lastPieces? (colonFields after)
    if 7 < first.length + last.length then none
    else some (first ++ List.replicate (8 - first.length - last.length) 0 ++ last)

/-- How many zeros stand in front. -/
def zeros (ns : List Nat) : Nat := (ns.takeWhile (· = 0)).length

/-- The first of the longest runs of zeros, by place and length. -/
def longestZeros : Nat → List Nat → Nat × Nat
  | _, [] => (0, 0)
  | place, n :: ns =>
    let later := longestZeros (place + 1) ns
    if later.2 ≤ zeros (n :: ns) then (place, zeros (n :: ns)) else later

def pieceList (ns : List Nat) : List Char :=
  [':'].intercalate (ns.map fun n => Nat.toDigits 16 n)

/-- The pieces between brackets, with the longest run of several zeros left out. -/
def eightText (ns : List Nat) : List Char :=
  let (place, length) := longestZeros 0 ns
  let pieces := if length < 2 then pieceList ns
    else pieceList (ns.take place) ++ ':' :: ':' :: pieceList (ns.drop (place + length))
  '[' :: pieces ++ [']']

end Gazette.Address
