import Gazette.Client.Transport
import Gazette.Page.Render
import Gazette.Wire.Read

/-! # The client: listings and articles

Each operation sends one request. Its outcome holds the result, the request and what was logged. An
article may be asked for by a query brought along, in a text or in a file. -/
namespace Gazette

namespace DocumentQuery

/-- The name of a query that comes from no file. -/
def inlineName : String := "<inline>"

/-- A query given as a text. -/
def inline (text : String) : Except Fault DocumentQuery :=
  (ofText text).mapError (.query inlineName)

/-- A query kept in a file, and what is logged while it is loaded. -/
def ofFile (path : String) (file : File) : Except Fault DocumentQuery × List Event :=
  match file.text with
  | .error reason => (.error (.query path (.unreadable reason)), [])
  | .ok text => ((ofText text).mapError (.query path), [.queryLoaded path text.utf8ByteSize])

end DocumentQuery

/-- An answer read from its envelope. -/
def Envelope.ofJson (data : Wire.Schema) (v : Json) : Except Fault (Envelope data.Carrier) :=
  (Wire.Schema.read (.envelope data) v).mapError .form

/-- The data, unless errors are reported or there is none. -/
def Envelope.take {α : Type} (e : Envelope α) : Except Fault α :=
  match e.errors, e.data with
  | [], some x => .ok x
  | [], none => .error (.invalidResponse "response has no data")
  | errors, _ => .error (.remote ("; ".intercalate (errors.map ErrorEntry.message)))

/-- What an operation comes to, with the requests it sent and the events it logged. -/
structure Outcome (α : Type) where
  result : α
  requests : List Request
  events : List Event

structure Client where
  config : Config
  query : DocumentQuery := .standard

/-- What is shown in place of an article that cannot be fetched. -/
def placeholder : String := "<p>Fetching article failed </p>"

namespace Client

/-- A client with the transport of its configuration, and what is logged on the way. -/
def connect (c : Config) (naming : Address.Naming := .ascii) :
    Except Fault (Client × Transport × List Event) := do
  let t ← Transport.ofConfig c naming
  .ok ({ config := c }, t, [.transportReady c.apiUrl, .clientReady c.apiUrl])

/-- A description that does not give the session away. -/
def describe (c : Client) : String :=
  String.join ["Client \x7b config: ", c.config.describe, ", .. \x7d"]

/-- Sends a request and takes the data out of the answer. -/
def ask (data : Wire.Schema) (exchange : Exchange) (r : Request) :
    Except Fault data.Carrier × List Event :=
  let (body, events) := exchange r
  (do
    let v ← body
    let e ← Envelope.ofJson data v
    e.take, events)

/-- The request of a listing. -/
def listingRequest (filter : Filter) (limit : UInt32) : Request :=
  Request.var { query := Query.search filter } "limit" (.int limit.toNat)

/-- The request of an article. -/
def articleRequest (c : Client) (path : String) : Request :=
  Request.var { query := c.query.text } "path" (.str path)

/-- Fetches the newest documents, at most `limit` of them. -/
def fetch (exchange : Exchange) (filter : Filter) (limit : UInt32) :
    Outcome (Except Fault (List Document)) :=
  let r := listingRequest filter limit
  let (answer, events) := ask .listing exchange r
  let result := answer.map Listing.documents
  let closing := match result with
    | .ok ds => [.fetched ds.length]
    | .error _ => []
  ⟨result, [r], .fetching limit filter.text :: (events ++ closing)⟩

/-- Fetches the article at a path. -/
def fetchArticle (c : Client) (exchange : Exchange) (path : String) :
    Outcome (Except Fault ArticleReply) :=
  let r := c.articleRequest path
  let (answer, events) := ask .found exchange r
  let result := answer.bind fun found =>
    match found.article with
    | some article => .ok { article }
    | none => .error (.noSuchArticle path)
  ⟨result, [r], .fetchingArticle path :: events⟩

/-- The page of the article at a path, or the placeholder. -/
def articleHtml (c : Client) (exchange : Exchange) (path : String) : Outcome String :=
  let o := c.fetchArticle exchange path
  match o.result with
  | .ok reply =>
    let page := reply.page
    ⟨page.text, o.requests, o.events ++ Event.ofWarnings page.warnings.toList⟩
  | .error f => ⟨placeholder, o.requests, o.events ++ [.articleFailed path f.message]⟩

end Client
end Gazette
