import Gazette.Client.Config
import Gazette.Client.Event
import Gazette.Client.Status
import Gazette.Json.Parse
import Gazette.Json.Printer

/-! # Requests over HTTP

A request is a query with its variables. Every one carries the session in a cookie. It is sent once,
and a reply is judged by its code before anyone looks at its body. -/
namespace Gazette
open Gazette.Text

/-- A query with a value for each of some names, in the order of the names. -/
structure Request where
  query : String
  vars : List (String × Json) := []

namespace Request

/-- Sets a variable; a value set before is replaced. -/
def var (r : Request) (name : String) (value : Json) : Request :=
  { r with vars := Json.insert name value r.vars }

theorem lookup_var (r : Request) (name k : String) (value : Json) :
    (r.var name value).vars.lookup k = if k = name then some value else r.vars.lookup k :=
  Json.lookup_insert

def toJson (r : Request) : Json := .obj [("query", .str r.query), ("variables", .obj r.vars)]

/-- The text that is sent. -/
def body (r : Request) : String := r.toJson.print

end Request

/-- What the client asks, seen as one exchange: what comes back, and what is logged meanwhile. -/
abbrev Exchange := Request → Except Fault Json × List Event

/-- A request as it goes over the wire. -/
structure HttpRequest where
  /-- What is asked of the server. -/
  target : String
  headers : List (String × String)
  body : String
  deriving DecidableEq, Repr

/-- What comes back over the wire; it names no other place to ask. A body that is not whole ends
before its announced length. -/
inductive HttpReply where
  | none
  | some (code : Nat) (body : List UInt8) (whole : Bool)

namespace HttpRequest

def line (r : HttpRequest) : String := "POST " ++ r.target ++ " HTTP/1.1"

/-- The values of a header. -/
def values (r : HttpRequest) (name : String) : List String :=
  (r.headers.filter fun h => h.1 = name).map Prod.snd

/-- The request line and the headers, each ended by a line break. -/
def head (r : HttpRequest) : String :=
  String.join ((r.line :: r.headers.map fun h => h.1 ++ ": " ++ h.2).map (· ++ "\r\n"))

end HttpRequest

/-- Where requests go, the headers they all have, and the rules for names in other scripts. -/
structure Transport where
  apiUrl : String
  headers : List (String × String)
  naming : Address.Naming := .ascii

namespace Transport

def refusedSession : String := "session id is not a valid header value"

/-- A transport exists only if the cookie can stand in a header. -/
def ofConfig (c : Config) (naming : Address.Naming := .ascii) : Except Fault Transport :=
  if Config.isHeaderValue c.cookie then
    .ok ⟨c.apiUrl, [("content-type", "application/json"), ("accept", "application/json"),
      ("cookie", c.cookie)], naming⟩
  else .error (.config refusedSession)

/-- The request over the wire. Who asks, if the url says so, stands in front of the headers. -/
def request (t : Transport) (a : Address) (r : Request) : HttpRequest where
  target := a.target
  headers := (a.login.authorization?.map fun told => ("authorization", told)).toList ++ t.headers ++
    [("host", a.authority), ("content-length", toString r.body.utf8ByteSize)]
  body := r.body

/-- The request over the wire, if there is an address to send it to. -/
def request? (t : Transport) (r : Request) : Option HttpRequest :=
  match Address.ofUrl t.naming t.apiUrl with
  | .error _ => none
  | .ok a => some (t.request a r)

theorem request?_eq_some_iff {t : Transport} {r : Request} {q : HttpRequest} :
    t.request? r = some q ↔ ∃ a, Address.ofUrl t.naming t.apiUrl = .ok a ∧ t.request a r = q := by
  rw [request?]
  cases Address.ofUrl t.naming t.apiUrl <;> simp

/-- At most this many characters of a body are kept in a fault. -/
def excerptLength : Nat := 200

/-- What a reply without success says: the start of its body, or else the phrase of its code. -/
def excerpt (code : Nat) (body : List UInt8) (whole : Bool) : String :=
  match if whole then (Utf8.lenient body).take excerptLength else [] with
  | [] => Status.phrase code
  | cs => String.ofList cs

/-- What a reply comes to. -/
def receive (code : Nat) (body : List UInt8) (whole : Bool) : Except Fault Json × List Event :=
  let body := if Status.isBodiless code then [] else body
  let whole := whole || Status.isBodiless code
  if Status.isSuccess code then
    if whole then ((Json.parseBytes body).mapError .malformed, [.received body.length])
    else (.error (.exchange .cutShort), [])
  else (.error (.status code (excerpt code body whole)), [])

/-- An exchange by way of a network. -/
def exchange (t : Transport) (network : HttpRequest → HttpReply) : Exchange := fun r =>
  let posting := Event.posting t.apiUrl r.vars.length
  match Address.ofUrl t.naming t.apiUrl with
  | .error flaw => (.error (.exchange (.badAddress flaw)), [posting])
  | .ok a =>
    match network (t.request a r) with
    | .none => (.error (.exchange (.unreachable a.url)), [posting])
    | .some code body whole =>
      let (result, events) := receive code body whole
      (result, posting :: events)

end Transport
end Gazette
