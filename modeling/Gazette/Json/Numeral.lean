import Gazette.Json.Fault

/-! # Numbers in JSON texts

A whole number that fits 64 bits keeps its value. Any other is a floating-point number made from as
many leading digits as fit 64 bits, scaled by one power of ten; it may lie next to the number that
is nearest to the text. Minus zero is a floating-point number. -/
namespace Gazette.Json

/-- The parts of a number's text: digits before and after the point, and the exponent with its
sign. -/
structure Numeral where
  negative : Bool
  whole : List Char
  places : Option (List Char)
  power : Option (Bool × List Char)

inductive Number where
  | int (n : Int)
  | float (x : Float)

def digitValue (c : Char) : Nat := c.toNat - '0'.toNat

def natOfDigits (ds : List Char) : Nat := ds.foldl (fun n c => 10 * n + digitValue c) 0

/-- The digits gathered so far, `digits · 10 ^ exponent`; `full` once one has not fitted. -/
structure Gathered where
  digits : Nat
  exponent : Int
  full : Bool

/-- Adds a digit that lies `step` places after the one before: 0 before the decimal point, 1 behind
it. A digit that does not fit only moves the point. -/
def Gathered.add (step : Int) (g : Gathered) (c : Char) : Gathered :=
  let n := 10 * g.digits + digitValue c
  if g.full ∨ UInt64.size ≤ n then { g with exponent := g.exponent + 1 - step, full := true }
  else { g with digits := n, exponent := g.exponent - step }

/-- `x · 10 ^ exponent` in floating point, or `none` if that is infinite. Below -308 the scaling
goes in steps, three of which leave nothing of any 64-bit number. -/
def scale? : Nat → Float → Int → Option Float
  | steps, x, exponent =>
    if exponent.natAbs ≤ 308 then
      let power := Float.ofScientific 1 false exponent.natAbs
      if 0 ≤ exponent then
        let y := x * power
        if y.isInf then none else some y
      else some (x / power)
    else if x == 0 then some x
    else if 0 ≤ exponent then none
    else match steps with
      | 0 => some 0
      | steps + 1 => scale? steps (x / Float.ofScientific 1 false 308) (exponent + 308)

/-- The value of a numeral with a fraction or an exponent, or with too many digits. -/
def Numeral.float? (n : Numeral) : Option Float :=
  let g := n.whole.foldl (Gathered.add 0) ⟨0, 0, false⟩
  let g := (n.places.getD []).foldl (Gathered.add 1) { g with full := false }
  let size := match n.power with
    | none => scale? 3 g.digits.toUInt64.toFloat g.exponent
    | some (negative, ds) =>
      let e : Int := natOfDigits ds
      if e < 0x80000000 then
        scale? 3 g.digits.toUInt64.toFloat (if negative then g.exponent - e else g.exponent + e)
      else if g.digits = 0 ∨ negative then some 0 else none
  size.map fun x => if n.negative then -x else x

/-- The value of a numeral, or `none` if it is too large for any number. -/
def Numeral.value? (n : Numeral) : Option Number :=
  let whole := natOfDigits n.whole
  match n.places, n.power with
  | none, none =>
    if n.negative then
      if whole = 0 then some (.float (-0.0))
      else if whole ≤ 0x8000000000000000 then some (.int (-whole))
      else n.float?.map .float
    else if whole < UInt64.size then some (.int whole)
    else n.float?.map .float
  | _, _ => n.float?.map .float

/-- Some digits and what follows them; there has to be one. -/
def takeDigits (cs : List Char) : Except Break (List Char × List Char) :=
  match cs.takeWhile Char.isDigit, cs.dropWhile Char.isDigit with
  | [], [] => .error (.ahead .endInValue [])
  | [], rest => .error (.ahead .badNumber rest)
  | ds, rest => .ok (ds, rest)

/-- The digits behind a decimal point, if one comes next. -/
def takePlaces : List Char → Except Break (Option (List Char) × List Char)
  | '.' :: cs => do let (ds, rest) ← takeDigits cs; .ok (some ds, rest)
  | cs => .ok (none, cs)

/-- The exponent, if one comes next; it is marked by either letter e and may have a sign. -/
def takePower : List Char → Except Break (Option (Bool × List Char) × List Char)
  | c :: cs =>
    if c = 'e' ∨ c = 'E' then
      let (negative, cs) := match cs with
        | '-' :: cs => (true, cs)
        | '+' :: cs => (false, cs)
        | cs => (false, cs)
      do let (ds, rest) ← takeDigits cs; .ok (some (negative, ds), rest)
    else .ok (none, c :: cs)
  | [] => .ok (none, [])

/-- Reads a number. A whole part of several digits does not start with zero. -/
def Numeral.take (cs : List Char) : Except Break (Numeral × List Char) := do
  let (negative, cs) := match cs with
    | '-' :: cs => (true, cs)
    | cs => (false, cs)
  let (whole, rest) ← match cs with
    | '0' :: rest =>
      if rest.head?.any Char.isDigit then .error (.ahead .badNumber rest) else .ok (['0'], rest)
    | cs => takeDigits cs
  let (places, rest) ← takePlaces rest
  let (power, rest) ← takePower rest
  .ok (⟨negative, whole, places, power⟩, rest)

end Gazette.Json
