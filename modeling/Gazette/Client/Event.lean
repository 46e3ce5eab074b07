import Gazette.Client.Fault
import Gazette.Page.Markup

/-! # What is logged -/
namespace Gazette

inductive Level where
  | trace | debug | warn | error
  deriving DecidableEq, Repr

def Level.name : Level → String
  | .trace => "TRACE"
  | .debug => "DEBUG"
  | .warn => "WARN"
  | .error => "ERROR"

inductive Event where
  | warning (w : Warning)
  | transportReady (url : String)
  | clientReady (url : String)
  | fetching (limit : UInt32) (filter : String)
  | fetched (count : Nat)
  | fetchingArticle (path : String)
  | articleFailed (path : String) (error : String)
  | posting (url : String) (count : Nat)
  | received (bytes : Nat)
  | queryLoaded (path : String) (bytes : Nat)
  deriving DecidableEq, Repr

def Warning.message : Warning → String
  | .headingDepth _ => "Heading depth not in range, rendering as h1"
  | .unsupported name => String.join ["Unsupported element: ", name]

def Warning.fields : Warning → List (String × Json)
  | .headingDepth depth => [("depth", .int depth.toInt)]
  | .unsupported name => [("kind", .str name)]

namespace Event

def level : Event → Level
  | .warning _ => .warn
  | .articleFailed _ _ => .error
  | .transportReady _ | .clientReady _ | .fetched _ | .queryLoaded _ _ => .debug
  | .fetching _ _ | .fetchingArticle _ | .posting _ _ | .received _ => .trace

def message : Event → String
  | .warning w => w.message
  | .transportReady url => String.join ["HTTP transport ready for ", url]
  | .clientReady url => String.join ["Republik client for ", url]
  | .fetching limit filter =>
    String.join ["Fetching ", toString limit.toNat, " documents (", filter, ")"]
  | .fetched count => String.join ["Fetched ", toString count, " documents"]
  | .fetchingArticle path => String.join ["Fetching article: ", path]
  | .articleFailed path error =>
    String.join ["Fetching article ", path, " failed with error ", error]
  | .posting url count => String.join ["POST ", url, " (", toString count, " variables)"]
  | .received bytes => String.join ["Received ", toString bytes, " bytes"]
  | .queryLoaded path bytes =>
    String.join ["Loaded document query from ", path, " (", toString bytes, " bytes)"]

/-- What is logged beside the message. -/
def fields : Event → List (String × Json)
  | .warning w => w.fields
  | _ => []

def toJson (e : Event) : Json := .arr [.str e.level.name, .str e.message, .obj e.fields]

end Event

/-- The events of the warnings of a page. -/
def Event.ofWarnings (ws : List Warning) : List Event := ws.map .warning

end Gazette
