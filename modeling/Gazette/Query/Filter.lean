/-! # Filters of listings -/
namespace Gazette

/-- Restrictions of a listing. An empty text restricts nothing. -/
structure Filter where
  /-- Only what is shown in the feed. -/
  feed : Bool := false
  /-- Only what has a recording. -/
  hasAudio : Bool := false
  audioSourceKind : Option String := none
  /-- Only documents of this format. -/
  format : Option String := none
  deriving DecidableEq, Repr

namespace Filter

/-- Empty input is no restriction. -/
def nonEmpty? (s : String) : Option String := if s = "" then none else some s

def inFeed (f : Filter) : Filter := { f with feed := true }

def withAudio (f : Filter) : Filter := { f with hasAudio := true }

def ofAudioSourceKind (f : Filter) (kind : String) : Filter :=
  { f with audioSourceKind := nonEmpty? kind }

def ofFormat (f : Filter) (format : String) : Filter := { f with format := nonEmpty? format }

/-- The restrictions that are set, in a fixed order. -/
def clauses (f : Filter) : List String :=
  (if f.feed then ["feed: true"] else []) ++
  (if f.hasAudio then ["hasAudio: true"] else []) ++
  ((f.audioSourceKind.bind nonEmpty?).map fun kind => "audioSourceKind: " ++ kind).toList ++
  ((f.format.bind nonEmpty?).map fun format => "format: \"" ++ format ++ "\"").toList

def isEmpty (f : Filter) : Bool := f.clauses.isEmpty

/-- The argument of the search, or nothing if there is no restriction. -/
def text (f : Filter) : String :=
  if f.isEmpty then "" else "filter: \x7b" ++ ", ".intercalate f.clauses ++ "\x7d"

end Filter
end Gazette
