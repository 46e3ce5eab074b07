import Gazette.Decimal.Shortest

/-! # How floating-point numbers are written

The fewest digits that read back, positional with at least one decimal place between 1e-5 and
1e16, and with a signed exponent outside. -/
namespace Gazette.Decimal

/-- Positional or with an exponent, by where the decimal point falls. -/
def Scientific.written (s : Scientific) : String :=
  let ds := Nat.toDigits 10 s.digits
  let zeros (n : Nat) : List Char := List.replicate n '0'
  let point : Int := ds.length + s.exponent
  String.ofList <|
    if 16 < point ∨ point ≤ -5 then
      let places := if ds.tail.isEmpty then [] else '.' :: ds.tail
      let sign := if 0 < point then '+' else '-'
      ds.take 1 ++ places ++ 'e' :: sign :: Nat.toDigits 10 (point - 1).natAbs
    else if point ≤ 0 then '0' :: '.' :: zeros (-point).toNat ++ ds
    else if 0 ≤ s.exponent then ds ++ zeros s.exponent.toNat ++ ['.', '0']
    else ds.take point.toNat ++ '.' :: ds.drop point.toNat

/-- The text of a finite number. -/
def ofFloat (x : Float) : String :=
  let bits := x.toBits.toNat
  let size := bits % 0x8000000000000000
  (if 0x8000000000000000 ≤ bits then "-" else "") ++
    if size = 0 then "0.0" else (Range.ofBits size).shortest.written

end Gazette.Decimal
