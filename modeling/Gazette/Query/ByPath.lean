import Gazette.Query.Search
import Gazette.Text.Basic
import Gazette.Text.Utf8

/-! # The query of one document

Readers of the service may bring a query of their own; it has to use the variable for the path. -/
namespace Gazette
open Gazette.Text

/-- What may be wrong with a query. -/
inductive QueryFlaw where
  | blank
  | noPath
  | unreadable (reason : String)
  deriving DecidableEq, Repr

def QueryFlaw.message : QueryFlaw → String
  | .blank => "query is empty"
  | .noPath => "query does not use the $path variable"
  | .unreadable reason => reason

/-- A query of one document by its path. -/
structure DocumentQuery where
  text : String
  deriving DecidableEq, Repr

namespace DocumentQuery

/-- A text serves as a query if it names the variable somewhere. -/
def ofText (text : String) : Except QueryFlaw DocumentQuery :=
  if allBlank text then .error .blank
  else if occurs "$path".toList text.toList then .ok ⟨text⟩
  else .error .noPath

/-- The query that asks for all that is known of a document. -/
def standard : DocumentQuery where
  text := Query.lines [
    "query getDocument($path: String!) \x7b",
    "  article: document(path: $path) \x7b",
    "    type: __typename",
    "    id",
    "    repoId",
    "    content",
    "    " ++ Query.infoSelection,
    "  \x7d",
    "\x7d"]

instance : Inhabited DocumentQuery := ⟨standard⟩

end DocumentQuery

/-- What opening a file gives. -/
inductive File where
  | bytes (content : List UInt8)
  | missing
  | directory
  | denied

/-- The text of a file, or why there is none. -/
def File.text : File → Except String String
  | .bytes content =>
    match Utf8.strict? content with
    | some cs => .ok (String.ofList cs)
    | none => .error "stream did not contain valid UTF-8"
  | .missing => .error "No such file or directory (os error 2)"
  | .directory => .error "Is a directory (os error 21)"
  | .denied => .error "Permission denied (os error 13)"

end Gazette
