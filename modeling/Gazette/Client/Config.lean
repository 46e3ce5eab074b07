import Gazette.Text.Quoted

/-! # Which service to ask, and as whom -/
namespace Gazette
open Gazette.Text

/-- The endpoint of the public service. -/
def publicUrl : String := "https://api.republik.ch/graphql"

structure Config where
  /-- Where requests are sent. -/
  apiUrl : String := publicUrl
  /-- The session of a reader who is logged in. -/
  sessionId : String
  deriving DecidableEq, Repr

namespace Config

/-- The variables of the environment that hold the session and another endpoint. -/
def sessionVariable : String := "REPUBLIK_SID"
def urlVariable : String := "REPUBLIK_API_URL"

/-- The configuration an environment asks for, if it names a session; an empty variable counts as
absent. -/
def ofEnvironment (env : String → Option String) : Option Config := do
  let sessionId ← (env sessionVariable).filter (· ≠ "")
  some { apiUrl := ((env urlVariable).filter (· ≠ "")).getD publicUrl, sessionId }

/-- The value of the cookie header. -/
def cookie (c : Config) : String := "connect.sid=" ++ c.sessionId

/-- A header value holds no control characters but tabs. -/
def isHeaderValue (s : String) : Bool :=
  s.toList.all fun c => c = '\t' || (0x20 ≤ c.toNat && c.toNat ≠ 0x7f)

/-- A description that does not give the session away. -/
def describe (c : Config) : String :=
  let session := if c.sessionId = "" then "" else "***"
  String.join ["ClientConfig \x7b api_url: ", quoted c.apiUrl, ", session_id: ", quoted session,
    " \x7d"]

end Config
end Gazette
