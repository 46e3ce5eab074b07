import Gazette.Address.Basic
import Gazette.Json.Fault
import Gazette.Query.ByPath
import Gazette.Wire.Mismatch

/-! # What may go wrong when the service is asked -/
namespace Gazette
open Gazette.Text

/-- Why an exchange did not come about or broke off. -/
inductive ExchangeFault where
  /-- The endpoint is no address that requests can be sent to. -/
  | badAddress (flaw : AddressFlaw)
  | unreachable (url : String)
  | cutShort
  deriving DecidableEq, Repr

def ExchangeFault.message : ExchangeFault → String
  | .badAddress .noUrl => "builder error"
  | .badAddress (.unsuited url) => String.join ["builder error for url (", url, ")"]
  | .unreachable url => String.join ["error sending request for url (", url, ")"]
  | .cutShort => "error decoding response body"

inductive Fault where
  | exchange (f : ExchangeFault)
  /-- The service answered with a code that is no success. -/
  | status (code : Nat) (message : String)
  /-- What was sent is no JSON, or does not have the form it should. -/
  | malformed (f : Json.SyntaxFault)
  | form (m : Wire.Mismatch)
  /-- The service reports errors. -/
  | remote (messages : String)
  | noSuchArticle (path : String)
  | invalidResponse (reason : String)
  | query (path : String) (flaw : QueryFlaw)
  | config (reason : String)

namespace Fault

def message : Fault → String
  | .exchange f => String.join ["HTTP error: ", f.message]
  | .status code message => String.join ["HTTP status ", toString code, ": ", message]
  | .malformed f => String.join ["JSON error: ", f.message]
  | .form m => String.join ["JSON error: ", m.message]
  | .remote messages => String.join ["Remote query failed: ", messages]
  | .noSuchArticle path => String.join ["No such article: ", path]
  | .invalidResponse reason => String.join ["Invalid response: ", reason]
  | .query path flaw => String.join ["Query template ", path, ": ", flaw.message]
  | .config reason => String.join ["Invalid configuration: ", reason]

/-- A description in the shape of the fault; of a failed exchange or wrong JSON only the name. -/
def describe : Fault → String
  | .exchange _ => "Http"
  | .malformed _ | .form _ => "Json"
  | .status code message =>
    String.join ["Status \x7b code: ", toString code, ", message: ", quoted message, " \x7d"]
  | .remote messages => String.join ["RemoteQuery(", quoted messages, ")"]
  | .noSuchArticle path => String.join ["NoSuchArticle(", quoted path, ")"]
  | .invalidResponse reason => String.join ["InvalidResponse(", quoted reason, ")"]
  | .query path flaw =>
    String.join ["QueryTemplate \x7b path: ", quoted path, ", reason: ", quoted flaw.message,
      " \x7d"]
  | .config reason => String.join ["Config(", quoted reason, ")"]

end Fault
end Gazette
