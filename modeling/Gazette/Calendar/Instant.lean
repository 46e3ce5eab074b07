import Gazette.Calendar.Date
import Gazette.Document

/-! # Instants and how they are written

The internet's profile of dates and times: a date, a time of day with any fraction of a second, and
the offset from universal time. A fraction counts to the nanosecond. Second 60 is read as a whole
second of nanoseconds beyond second 59. -/
namespace Gazette

/-- Seconds since the start of 1970 in universal time, and nanoseconds. -/
structure Instant where
  seconds : Int
  nanos : Nat
  deriving DecidableEq, Repr

namespace Instant

def digit? (c : Char) : Option Nat :=
  if '0' ≤ c ∧ c ≤ '9' then some (c.toNat - '0'.toNat) else none

/-- A number of exactly so many digits, and the rest of the text. -/
def takeNumber : Nat → Nat → List Char → Option (Nat × List Char)
  | 0, acc, cs => some (acc, cs)
  | places + 1, acc, c :: cs => do
    let d ← digit? c
    takeNumber places (10 * acc + d) cs
  | _ + 1, _, [] => none

/-- A character out of a few, which is dropped. -/
def takeMark (marks : List Char) : List Char → Option (List Char)
  | c :: cs => if c ∈ marks then some cs else none
  | [] => none

/-- `YYYY-MM-DD`, a day that exists. -/
def takeDate (cs : List Char) : Option (Date × List Char) := do
  let (year, cs) ← takeNumber 4 0 cs
  let cs ← takeMark ['-'] cs
  let (month, cs) ← takeNumber 2 0 cs
  let cs ← takeMark ['-'] cs
  let (day, cs) ← takeNumber 2 0 cs
  let date : Date := ⟨year, month, day⟩
  if date.Valid then some (date, cs) else none

/-- `HH:MM:SS`, as seconds of the day and whether the last of them is second 60. -/
def takeTime (cs : List Char) : Option (Nat × Bool × List Char) := do
  let (hour, cs) ← takeNumber 2 0 cs
  let cs ← takeMark [':'] cs
  let (minute, cs) ← takeNumber 2 0 cs
  let cs ← takeMark [':'] cs
  let (second, cs) ← takeNumber 2 0 cs
  if hour ≤ 23 ∧ minute ≤ 59 ∧ second ≤ 60 then
    some (hour * 3600 + minute * 60 + min second 59, second = 60, cs)
  else none

/-- The nanoseconds of the digits behind the decimal point; those after the ninth are dropped. -/
def nanosOf (ds : List Char) : Nat :=
  (ds.take 9 ++ List.replicate (9 - ds.length) '0').foldl
    (fun n c => 10 * n + (c.toNat - '0'.toNat)) 0

/-- A fraction of a second, if there is a point. -/
def takeFraction : List Char → Option (Nat × List Char)
  | '.' :: cs =>
    match cs.takeWhile Char.isDigit with
    | [] => none
    | ds => some (nanosOf ds, cs.dropWhile Char.isDigit)
  | cs => some (0, cs)

/-- The offset from universal time in seconds, at the end of the text. -/
def offset? : List Char → Option Int
  | ['Z'] | ['z'] => some 0
  | sign :: cs => do
    let negative ← if sign = '+' then some false
      else if sign = '-' ∨ sign = '\u2212' then some true else none
    let (hours, cs) ← takeNumber 2 0 cs
    let cs ← takeMark [':'] cs
    let (minutes, cs) ← takeNumber 2 0 cs
    if cs = [] ∧ hours ≤ 23 ∧ minutes ≤ 59 then
      let size : Int := hours * 3600 + minutes * 60
      some (if negative then -size else size)
    else none
  | [] => none

/-- The instant a text names. -/
def ofText? (text : String) : Option Instant := do
  let (date, cs) ← takeDate text.toList
  let cs ← takeMark ['T', 't', ' '] cs
  let (time, isLeap, cs) ← takeTime cs
  let (nanos, cs) ← takeFraction cs
  let offset ← offset? cs
  some ⟨date.number * 86400 + time - offset, if isLeap then nanos + 1000000000 else nanos⟩

def padded (places n : Nat) : String :=
  let ds := Nat.toDigits 10 n
  String.ofList (List.replicate (places - ds.length) '0' ++ ds)

/-- Four digits; beyond them with a sign. -/
def yearText (year : Int) : String :=
  if 0 ≤ year ∧ year ≤ 9999 then padded 4 year.toNat
  else (if year < 0 then "-" else "+") ++ padded 4 year.natAbs

def date (t : Instant) : Date := Date.ofNumber (t.seconds / 86400)

/-- `YYYY-MM-DD` -/
def dateText (t : Instant) : String :=
  let d := t.date
  yearText d.year ++ "-" ++ padded 2 d.month ++ "-" ++ padded 2 d.day

/-- As many groups of three digits as are needed. -/
def fractionText (nanos : Nat) : String :=
  if nanos = 0 then ""
  else if nanos % 1000000 = 0 then "." ++ padded 3 (nanos / 1000000)
  else if nanos % 1000 = 0 then "." ++ padded 6 (nanos / 1000)
  else "." ++ padded 9 nanos

/-- Date and time of day in universal time. -/
def text (t : Instant) : String :=
  let time := (t.seconds % 86400).toNat
  let second := time % 60 + t.nanos / 1000000000
  t.dateText ++ "T" ++ padded 2 (time / 3600) ++ ":" ++ padded 2 (time / 60 % 60) ++ ":" ++
    padded 2 second ++ fractionText (t.nanos % 1000000000) ++ "+00:00"

end Instant

/-- When a document was published, if that can be read. -/
def Document.publicationInstant? (d : Document) : Option Instant :=
  Instant.ofText? d.info.publishDate

end Gazette
