/-! # The shortest decimal of a binary fraction

Of the decimals that lie nearer to a given floating-point number than to any other, the one with
the fewest digits; of two such, the one nearer to the number, and of two equally near the even one.
All arithmetic is exact. -/
namespace Gazette.Decimal

/-- The number `digits · 10 ^ exponent`. -/
structure Scientific where
  digits : Nat
  exponent : Int

/-- The reals that round to `middle · 2 ^ scale`: those between the two ends, an end itself being
included if `closed`. -/
structure Range where
  low : Nat
  middle : Nat
  high : Nat
  closed : Bool
  scale : Int

/-- The range of a positive finite number, measured in quarters of its last place. Below a power
of two the neighbours lie half as far apart. -/
def Range.ofBits (bits : Nat) : Range :=
  let fraction : Nat := bits % 0x10000000000000
  let power : Nat := bits / 0x10000000000000 % 0x800
  let m := if power = 0 then fraction else fraction + 0x10000000000000
  let q : Int := if power = 0 then -1074 else (power : Int) - 1075
  let below := if fraction = 0 ∧ 1 < power then 1 else 2
  { low := 4 * m - below, middle := 4 * m, high := 4 * m + 2, closed := m % 2 = 0, scale := q - 2 }

/-- The best multiple of `10 ^ exponent` in the range, if one lies there. -/
def Range.onGrid? (r : Range) (exponent : Int) : Option Scientific :=
  let unit := Nat.pow 2 r.scale.toNat * Nat.pow 10 (-exponent).toNat
  let grid := Nat.pow 2 (-r.scale).toNat * Nat.pow 10 exponent.toNat
  let inside (d : Nat) : Bool :=
    0 < d && if r.closed then r.low * unit ≤ d * grid && d * grid ≤ r.high * unit
      else r.low * unit < d * grid && d * grid < r.high * unit
  let d := r.middle * unit / grid
  let rest := r.middle * unit % grid
  match inside d, inside (d + 1) with
  | false, false => none
  | true, false => some ⟨d, exponent⟩
  | false, true => some ⟨d + 1, exponent⟩
  | true, true =>
    some ⟨if 2 * rest < grid ∨ 2 * rest = grid ∧ d % 2 = 0 then d else d + 1, exponent⟩

/-- The first hit on the grids from `exponent` down to ever finer ones. -/
def Range.search (r : Range) : Nat → Int → Scientific
  | 0, exponent => ⟨0, exponent⟩
  | steps + 1, exponent =>
    match r.onGrid? exponent with
    | some s => s
    | none => r.search steps (exponent - 1)

/-- The shortest decimal in the range. The search starts above the number, and twenty finer grids
reach beyond the seventeen digits that always suffice. -/
def Range.shortest (r : Range) : Scientific :=
  r.search 20 (((Nat.log2 r.middle : Int) + r.scale + 1) * 30103 / 100000 + 1)

end Gazette.Decimal
