import Gazette.Address.Host
import Gazette.Address.Login
import Gazette.Address.Path

/-! # Addresses of servers

An address is read from a url the lenient way: blanks at the ends and line breaks anywhere are
dropped, a backslash counts as a slash, and what cannot stand in a part is written as bytes in
hexadecimal. So a request line is one line whatever the url. -/
namespace Gazette
open Gazette.Text

/-- A server, who asks, what is asked of it, and the place in the answer that is meant. -/
structure Address where
  scheme : String
  login : Address.Login := {}
  host : Address.Host
  /-- The number of the service at the host; absent if it is the one that belongs to the scheme. -/
  service : Option Nat := none
  path : String
  query : Option String := none
  fragment : Option String := none
  deriving DecidableEq, Repr

/-- Why no request can be sent to a url. -/
inductive AddressFlaw where
  | noUrl
  /-- The scheme is none that requests are sent by, the host cannot stand in a request, or the url is
  too long. -/
  | unsuited (url : String)
  deriving DecidableEq, Repr

namespace Address

/-- The server, as it is named in a request. -/
def authority (a : Address) : String :=
  match a.service with
  | none => a.host.text
  | some n => String.join [a.host.text, ":", toString n]

/-- Text behind a mark, or nothing. -/
def marked (mark : String) : Option String → String
  | none => ""
  | some s => mark ++ s

/-- What is asked of the server. -/
def target (a : Address) : String := a.path ++ marked "?" a.query

/-- The address as a url again. A login that goes into a header is taken out of it. -/
def url (a : Address) : String :=
  let login := if a.login.authorization?.isSome then "" else a.login.text
  String.join [a.scheme, "://", login, a.authority, a.target, marked "#" a.fragment]

/-- No request is sent to a url of more bytes. -/
def longest : Nat := 0xfffe

/-- The schemes of the web, each with the number of its service. -/
def services : List (String × Nat) :=
  [("http", 80), ("https", 443), ("ws", 80), ("wss", 443), ("ftp", 21)]

/-- The url without controls and blanks at its ends, and without tabs and line breaks. -/
def trimmed (url : List Char) : List Char :=
  let isEdge (c : Char) : Bool := c.toNat ≤ 0x20
  ((url.dropWhile isEdge).reverse.dropWhile isEdge).reverse.filter
    fun c => c ≠ '\t' && c ≠ '\n' && c ≠ '\r'

/-- The scheme in small letters, and what follows its colon. -/
def splitScheme? (cs : List Char) : Option (List Char × List Char) :=
  let scheme := cs.takeWhile (· ≠ ':')
  match scheme, cs.drop scheme.length with
  | c :: _, ':' :: rest =>
    if c.isAlpha && scheme.all fun c => c.isAlphanum || c ∈ ['+', '-', '.'] then
      some (scheme.map Char.toLower, rest)
    else none
  | _, _ => none

/-- What stands in front of the last at sign, and what stands behind it. -/
def splitLogin (cs : List Char) : List Char × List Char :=
  let server := (cs.reverse.takeWhile (· ≠ '@')).reverse
  ((cs.take (cs.length - server.length)).dropLast, server)

/-- The host, and the service from its colon on; a colon inside brackets belongs to the host. -/
def splitService (cs : List Char) : List Char × List Char :=
  let host := match cs with
    | '[' :: _ => cs.takeWhile (· ≠ ']') ++ ((cs.dropWhile (· ≠ ']')).takeWhile (· ≠ ':'))
    | _ => cs.takeWhile (· ≠ ':')
  (host, cs.drop host.length)

/-- The service behind a colon, if one is given; the outer `none` if that is no service. -/
def service? : List Char → Option (Option Nat)
  | [] | [':'] => some none
  | ':' :: ds => do
    let n ← digits? 10 ds
    if n < 0x10000 then some (some n) else none
  | _ => none

/-- The address of a url behind its scheme. -/
def ofRest? (naming : Naming) (scheme : String) (own : Nat) (cs : List Char) :
    Option Address := do
  let cs := cs.dropWhile isSlash
  let place := cs.takeWhile fun c => !isSlash c && c ≠ '?' && c ≠ '#'
  let rest := cs.drop place.length
  let (login, server) := splitLogin place
  let (host, service) := splitService server
  let host ← Host.ofText? naming host
  let service ← service? service
  let path := rest.takeWhile fun c => c ≠ '?' && c ≠ '#'
  let rest := rest.drop path.length
  let query := match rest with
    | '?' :: cs => some (cs.takeWhile (· ≠ '#'))
    | _ => none
  let fragment := match rest.dropWhile (· ≠ '#') with
    | _ :: cs => some cs
    | [] => none
  let written (p : Part) (cs : List Char) : String := String.ofList (p.write cs)
  some {
    scheme, login := .ofText login, host, service := service.filter (· ≠ own),
    path := String.ofList (pathOf path), query := query.map (written .query),
    fragment := fragment.map (written .fragment) }

/-- The address that requests to a url are sent to. -/
def ofUrl (naming : Naming) (url : String) : Except AddressFlaw Address :=
  match splitScheme? (trimmed url.toList) with
  | none => .error .noUrl
  | some (scheme, rest) =>
    let scheme := String.ofList scheme
    match services.lookup scheme with
    | none => .error (.unsuited url)
    | some own =>
      match ofRest? naming scheme own rest with
      | none => .error .noUrl
      | some a =>
        if scheme ∈ ["http", "https"] ∧ a.host.isPlain ∧ a.url.utf8ByteSize ≤ longest then .ok a
        else .error (.unsuited a.url)

end Address
end Gazette
