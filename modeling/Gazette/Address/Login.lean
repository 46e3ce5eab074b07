import Gazette.Address.Percent

/-! # Who asks

A url may have a name and a password in front of the host. They are no part of what is asked, but
stand in a header of their own, as bytes in base 64. -/
namespace Gazette.Address
open Gazette.Text

/-- The digit of a number below 64. -/
def sextet (n : Nat) : Char :=
  if n < 26 then Char.ofNat (65 + n)
  else if n < 52 then Char.ofNat (71 + n)
  else if n < 62 then Char.ofNat (n - 4)
  else if n = 62 then '+' else '/'

/-- Bytes in base 64, three of them as four digits; marks stand for the bytes missing at the end. -/
def base64 : List UInt8 → List Char
  | [] => []
  | [a] =>
    let n := a.toNat * 16
    [sextet (n / 64), sextet (n % 64), '=', '=']
  | [a, b] =>
    let n := (a.toNat * 256 + b.toNat) * 4
    [sextet (n / 4096), sextet (n / 64 % 64), sextet (n % 64), '=']
  | a :: b :: c :: bs =>
    let n := (a.toNat * 256 + b.toNat) * 256 + c.toNat
    sextet (n / 262144) :: sextet (n / 4096 % 64) :: sextet (n / 64 % 64) :: sextet (n % 64) ::
      base64 bs

/-- What stands in front of the host, as it is written in a url; nobody is named by default. -/
structure Login where
  name : String := ""
  password : Option String := none
  deriving DecidableEq, Repr

namespace Login

/-- The first colon ends the name. An empty password is none. -/
def ofText (cs : List Char) : Login :=
  let written (cs : List Char) : String := String.ofList (Part.login.write cs)
  let name := cs.takeWhile (· ≠ ':')
  match cs.drop (name.length + 1) with
  | [] => { name := written name }
  | password => { name := written name, password := some (written password) }

/-- The login as it stands in a url. -/
def text (l : Login) : String :=
  match l.password with
  | none => if l.name = "" then "" else l.name ++ "@"
  | some password => String.join [l.name, ":", password, "@"]

/-- The text that is meant by a text with percent signs, if it is one. -/
def meant? (s : String) : Option String := (Utf8.strict? (unpercent s.toList)).map String.ofList

/-- The name and the password that are meant, if somebody is named. A name has to be a text, and a
password that is none is left out. -/
def credentials? (l : Login) : Option (String × Option String) := do
  let name ← meant? l.name
  let password := l.password.bind meant?
  if name = "" ∧ password = none then none else some (name, password)

/-- What a request says of who asks, if anything. -/
def authorization? (l : Login) : Option String :=
  l.credentials?.map fun (name, password) =>
    let told := String.join [name, ":", password.getD ""]
    "Basic " ++ String.ofList (base64 (Utf8.encode told.toList))

end Login
end Gazette.Address
