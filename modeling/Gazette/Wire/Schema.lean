import Gazette.Article
import Gazette.Client.Config
import Gazette.Client.Envelope

/-! # The forms of what is sent

A schema names a form, its carrier is the type of what has that form, and the records among the
forms are tables of fields. -/
namespace Gazette.Wire

/-- The widths of whole numbers. -/
inductive Width where
  | int64 | uint32 | uint64
  deriving DecidableEq, Repr

namespace Width

@[reducible] def Carrier : Width → Type
  | .int64 => Int64
  | .uint32 => UInt32
  | .uint64 => UInt64

def name : Width → String
  | .int64 => "i64"
  | .uint32 => "u32"
  | .uint64 => "u64"

/-- The number in this width, if it fits. -/
def ofInt? : (w : Width) → Int → Option w.Carrier
  | .int64, n => if (Int64.ofInt n).toInt = n then some (Int64.ofInt n) else none
  | .uint32, n => if (UInt32.ofNat n.toNat).toNat = n then some (UInt32.ofNat n.toNat) else none
  | .uint64, n => if (UInt64.ofNat n.toNat).toNat = n then some (UInt64.ofNat n.toNat) else none

theorem ofInt?_int64 (x : Int64) : ofInt? .int64 x.toInt = some x := by simp [ofInt?]

theorem ofInt?_uint32 (x : UInt32) : ofInt? .uint32 x.toNat = some x := by simp [ofInt?]

theorem ofInt?_uint64 (x : UInt64) : ofInt? .uint64 x.toNat = some x := by simp [ofInt?]

end Width

inductive Schema where
  | any | text | flag
  | integer (width : Width)
  | list (item : Schema)
  | kind | identifier | node | content | article | reply
  | document | info | crop | audioSource | format | formatInfo
  | config
  | errorEntry | envelope (data : Schema)
  | listing | slots | slot | found
  deriving DecidableEq, Repr

@[reducible] def Schema.Carrier : Schema → Type
  | .any => Json
  | .text => String
  | .flag => Bool
  | .integer width => width.Carrier
  | .list item => List item.Carrier
  | .kind => Kind
  | .identifier => Identifier
  | .node => Node
  | .content => Content
  | .article => Article
  | .reply => ArticleReply
  | .document => Document
  | .info => Meta
  | .crop => Crop
  | .audioSource => AudioSource
  | .format => Format
  | .formatInfo => FormatInfo
  | .config => Config
  | .errorEntry => ErrorEntry
  | .envelope data => Envelope data.Carrier
  | .listing => Listing
  | .slots => Slots
  | .slot => Slot
  | .found => Found

/-- Whether a record may be without a field: always, only if its fields are named, or never. -/
inductive Absence where
  | always | named | never
  deriving DecidableEq, Repr

/-- A field of a record: its key, its form, and what it puts into the record. -/
structure Field (ρ : Type) where
  key : String
  schema : Schema
  put : schema.Carrier → ρ → ρ
  /-- Whether `null` counts as absence. -/
  nullable : Bool := true
  absence : Absence := .always

/-- A form with fields, in the order they have when they are not named. -/
structure Record (ρ : Type) where
  name : String
  start : ρ
  fields : List (Field ρ)

namespace Record

def node : Record Node where
  name := "struct Node"
  start := {}
  fields := [
    { key := "type", schema := .kind, put := fun kind n => { n with kind } },
    { key := "identifier", schema := .text,
      put := fun s n => { n with identifier := if s = "" then none else some (.ofName s) } },
    { key := "children", schema := .list .node, put := fun children n => { n with children } },
    { key := "depth", schema := .integer .int64, put := fun depth n => { n with depth } },
    { key := "value", schema := .text, put := fun value n => { n with value } },
    { key := "alt", schema := .text, put := fun alt n => { n with alt } },
    { key := "title", schema := .text, put := fun title n => { n with title } },
    { key := "url", schema := .text, put := fun url n => { n with url } },
    { key := "code", schema := .text, put := fun code n => { n with code } },
    { key := "lang", schema := .text, put := fun lang n => { n with lang } },
    { key := "label", schema := .text, put := fun label n => { n with label } },
    { key := "ordered", schema := .flag, put := fun ordered n => { n with ordered } }]

def content : Record Content where
  name := "struct Content"
  start := {}
  fields := [
    { key := "type", schema := .text, put := fun kind c => { c with kind } },
    { key := "children", schema := .list .node, put := fun children c => { c with children } }]

def article : Record Article where
  name := "struct Article"
  start := {}
  fields := [
    { key := "type", schema := .text, put := fun kind a => { a with kind } },
    { key := "id", schema := .text, put := fun id a => { a with id } },
    { key := "repoId", schema := .text, put := fun repoId a => { a with repoId } },
    { key := "content", schema := .content, put := fun content a => { a with content } },
    { key := "meta", schema := .info, put := fun info a => { a with info } }]

def reply : Record ArticleReply where
  name := "struct ArticleResponse"
  start := {}
  fields := [{ key := "article", schema := .article, put := fun article _ => { article } }]

def document : Record Document where
  name := "struct Document"
  start := {}
  fields := [
    { key := "id", schema := .text, put := fun id d => { d with id } },
    { key := "meta", schema := .info, put := fun info d => { d with info } }]

def info : Record Meta where
  name := "struct DocumentMeta"
  start := {}
  fields := [
    { key := "title", schema := .text, put := fun title m => { m with title } },
    { key := "path", schema := .text, put := fun path m => { m with path } },
    { key := "image", schema := .text, put := fun image m => { m with image } },
    { key := "description", schema := .text, put := fun description m => { m with description } },
    { key := "publishDate", schema := .text, put := fun publishDate m => { m with publishDate } },
    { key := "template", schema := .text, put := fun template m => { m with template } },
    { key := "estimatedReadingMinutes", schema := .integer .uint32,
      put := fun readingMinutes m => { m with readingMinutes } },
    { key := "estimatedConsumptionMinutes", schema := .integer .uint32,
      put := fun consumptionMinutes m => { m with consumptionMinutes } },
    { key := "audioCoverCrop", schema := .crop,
      put := fun crop m => { m with audioCoverCrop := some crop } },
    { key := "audioSource", schema := .audioSource,
      put := fun source m => { m with audioSource := some source } },
    { key := "format", schema := .format, put := fun format m => { m with format := some format } }]

def crop : Record Crop where
  name := "struct AudioCoverCrop"
  start := {}
  fields := [
    { key := "x", schema := .integer .int64, put := fun x c => { c with x } },
    { key := "y", schema := .integer .int64, put := fun y c => { c with y } },
    { key := "width", schema := .integer .int64, put := fun width c => { c with width } },
    { key := "height", schema := .integer .int64, put := fun height c => { c with height } }]

def audioSource : Record AudioSource where
  name := "struct AudioSource"
  start := {}
  fields := [
    { key := "mp3", schema := .text, put := fun mp3 a => { a with mp3 } },
    { key := "kind", schema := .text, put := fun kind a => { a with kind } },
    { key := "durationMs", schema := .integer .uint64,
      put := fun durationMs a => { a with durationMs } }]

def format : Record Format where
  name := "struct FormatRef"
  start := {}
  fields := [{ key := "meta", schema := .formatInfo, put := fun info _ => { info } }]

def formatInfo : Record FormatInfo where
  name := "struct FormatMeta"
  start := {}
  fields := [
    { key := "path", schema := .text, put := fun path f => { f with path } },
    { key := "title", schema := .text, put := fun title f => { f with title } },
    { key := "kind", schema := .text, put := fun kind f => { f with kind } }]

def config : Record Config where
  name := "struct ClientConfig"
  start := { sessionId := "" }
  fields := [
    { key := "api_url", schema := .text, put := fun apiUrl c => { c with apiUrl },
      nullable := false },
    { key := "session_id", schema := .text, put := fun sessionId c => { c with sessionId },
      nullable := false, absence := .never }]

def errorEntry : Record ErrorEntry where
  name := "struct GraphqlErrorEntry"
  start := {}
  fields := [
    { key := "message", schema := .text, put := fun message e => { e with message } },
    { key := "path", schema := .list .any, put := fun path e => { e with path } }]

def envelope (data : Schema) : Record (Envelope data.Carrier) where
  name := "struct GraphqlResponse"
  start := {}
  fields := [
    { key := "data", schema := data, put := fun x e => { e with data := some x },
      absence := .named },
    { key := "errors", schema := .list .errorEntry, put := fun errors e => { e with errors } }]

def listing : Record Listing where
  name := "struct SearchData"
  start := {}
  fields := [{ key := "documents", schema := .slots, put := fun slots _ => { slots } }]

def slots : Record Slots where
  name := "struct SearchConnection"
  start := {}
  fields := [{ key := "nodes", schema := .list .slot, put := fun nodes _ => { nodes } }]

def slot : Record Slot where
  name := "struct SearchNode"
  start := {}
  fields := [{ key := "entity", schema := .document, put := fun d _ => { entity := some d } }]

def found : Record Found where
  name := "struct ArticleData"
  start := {}
  fields := [{ key := "article", schema := .article, put := fun a _ => { article := some a } }]

end Record

/-- The fields of a form, if it is a record. -/
def Schema.record? : (s : Schema) → Option (Record s.Carrier)
  | .node => some .node
  | .content => some .content
  | .article => some .article
  | .reply => some .reply
  | .document => some .document
  | .info => some .info
  | .crop => some .crop
  | .audioSource => some .audioSource
  | .format => some .format
  | .formatInfo => some .formatInfo
  | .config => some .config
  | .errorEntry => some .errorEntry
  | .envelope data => some (.envelope data)
  | .listing => some .listing
  | .slots => some .slots
  | .slot => some .slot
  | .found => some .found
  | .any | .text | .flag | .integer _ | .list _ | .kind | .identifier => none

/-- How messages name a form. -/
def Schema.expected : Schema → String
  | .any => "any value"
  | .text | .kind | .identifier => "a string"
  | .flag => "a boolean"
  | .integer width => width.name
  | .list _ => "a sequence"
  | s => (s.record?.map Record.name).getD ""

end Gazette.Wire
