import Gazette.Text.Quoted
import Gazette.Decimal.Notation
import Gazette.Json.Basic

/-! # How a value may fail to have an expected form -/
namespace Gazette.Wire
open Gazette.Text

/-- What a value is in place of what was expected. -/
inductive Actual where
  | null
  | bool (b : Bool)
  | int (n : Int)
  | float (x : Float)
  | str (s : String)
  | sequence
  | map

def Actual.message : Actual → String
  | .null => "null"
  | .bool b => String.join ["boolean `", if b then "true" else "false", "`"]
  | .int n => String.join ["integer `", toString n, "`"]
  | .float x => String.join ["floating point `", Decimal.ofFloat x, "`"]
  | .str s => String.join ["string ", quoted s]
  | .sequence => "sequence"
  | .map => "map"

def Actual.ofJson : Json → Actual
  | .null => .null
  | .bool b => .bool b
  | .int n => .int n
  | .float x => .float x
  | .str s => .str s
  | .arr _ => .sequence
  | .obj _ => .map

inductive Mismatch where
  | wrongType (actual : Actual) (expected : String)
  | outOfRange (n : Int) (expected : String)
  /-- An array has more items than the record has fields. -/
  | tooLong (length : Nat)
  /-- An array ends before a field that has to be there. -/
  | tooShort (place : Nat) (record : String) (fields : Nat)
  | missing (key : String)
  | repeated (key : String)

def Mismatch.message : Mismatch → String
  | .wrongType actual expected =>
    String.join ["invalid type: ", actual.message, ", expected ", expected]
  | .outOfRange n expected =>
    String.join ["invalid value: ", (Actual.int n).message, ", expected ", expected]
  | .tooLong length =>
    String.join ["invalid length ", toString length, ", expected fewer elements in array"]
  | .tooShort place record fields =>
    String.join ["invalid length ", toString place, ", expected ", record, " with ",
      toString fields, " elements"]
  | .missing key => String.join ["missing field `", key, "`"]
  | .repeated key => String.join ["duplicate field `", key, "`"]

end Gazette.Wire
