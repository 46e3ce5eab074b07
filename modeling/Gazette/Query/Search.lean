import Gazette.Query.Filter

/-! # The query of a listing -/
namespace Gazette.Query

/-- Templates of what is no document to read. -/
def excludedTemplates : List String := ["section", "format", "front"]

def lines (ls : List String) : String := "\n".intercalate ls

/-- The lines of what is asked about a document besides its text, but for the first. -/
def infoLines : List String := [
  "            title",
  "            path",
  "            image",
  "            description",
  "            publishDate",
  "            template",
  "            estimatedReadingMinutes",
  "            estimatedConsumptionMinutes",
  "            audioCoverCrop \x7b",
  "              x",
  "              y",
  "              width",
  "              height",
  "            \x7d",
  "            audioSource \x7b",
  "              mp3",
  "              kind",
  "              durationMs",
  "            \x7d",
  "            format \x7b",
  "              meta \x7b",
  "                path",
  "                title",
  "                kind",
  "              \x7d",
  "            \x7d",
  "          \x7d"]

/-- What is asked about a document besides its text. -/
def infoSelection : String := lines ("meta \x7b" :: infoLines)

def exclusion (template : String) : String :=
  String.join ["\x7b key: \"template\", not: true, value: \"", template, "\" \x7d"]

/-- The lines in front of the filter in the query of a listing. -/
def front : List String := [
  "query ($limit: Int!) \x7b",
  "  documents: search(",
  "    filters: ["] ++
  excludedTemplates.map (fun template => "      " ++ exclusion template) ++ ["    ]"]

/-- The lines behind it. -/
def back : List String := [
  "    sort: \x7b key: publishedAt, direction: DESC \x7d",
  "    first: $limit",
  "  ) \x7b",
  "    nodes \x7b",
  "      entity \x7b",
  "        ... on Document \x7b",
  "          id",
  "          meta \x7b"] ++ infoLines ++ [
  "        \x7d",
  "      \x7d",
  "    \x7d",
  "  \x7d",
  "\x7d"]

/-- The query of a listing, newest first; its length is the variable `limit`. -/
def search (f : Filter) : String := lines (front ++ ("    " ++ f.text) :: back)

end Gazette.Query
