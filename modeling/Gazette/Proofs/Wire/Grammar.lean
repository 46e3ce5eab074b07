import Gazette.Proofs.Tree.Canonical
import Gazette.Proofs.Wire.Entries

/-! # Which values are articles and documents

What a value has to look like to stand for a tree, an article, a document or a part of one, said
field by field, and what it then stands for. A record is an object or an array. What it does not
tell of a field, or tells by `null`, is the fallback of that field. -/
namespace Gazette.Json

/-- The entries of a record: those of an object, or the items of an array, under the keys in their
order, with no item left over. -/
inductive Tells (keys : List String) : Json → List (String × Json) → Prop
  | object (es : List (String × Json)) : Tells keys (.obj es) es
  | array {vs : List Json} (h : vs.length ≤ keys.length) : Tells keys (.arr vs) (keys.zip vs)

inductive Given {α : Type} (form : Json → α → Prop) (fallback : α) : Option Json → α → Prop
  | absent : Given form fallback none fallback
  | null : Given form fallback (some .null) fallback
  | value {v : Json} {x : α} (h : form v x) : Given form fallback (some v) x

inductive IsText : Json → String → Prop
  | str (s : String) : IsText (.str s) s

inductive IsFlag : Json → Bool → Prop
  | bool (b : Bool) : IsFlag (.bool b) b

/-- Numbers written with a fraction or an exponent are none of these three. -/
inductive IsInt64 : Json → Int64 → Prop
  | int {n : Int} (low : -0x8000000000000000 ≤ n) (high : n ≤ 0x7fffffffffffffff) :
      IsInt64 (.int n) (.ofInt n)

inductive IsUInt32 : Json → UInt32 → Prop
  | int {n : Nat} (high : n ≤ 0xffffffff) : IsUInt32 (.int n) (.ofNat n)

inductive IsUInt64 : Json → UInt64 → Prop
  | int {n : Nat} (high : n ≤ 0xffffffffffffffff) : IsUInt64 (.int n) (.ofNat n)

inductive IsKind : Json → Kind → Prop
  | str (name : String) : IsKind (.str name) (.ofName name)

inductive IsIdentifier : Json → Option Identifier → Prop
  | empty : IsIdentifier (.str "") none
  | str {name : String} (h : name ≠ "") : IsIdentifier (.str name) (some (.ofName name))

inductive IsList {α : Type} (form : Json → α → Prop) : Json → List α → Prop
  | arr {vs : List Json} {xs : List α} (h : List.Forall₂ form vs xs) : IsList form (.arr vs) xs

inductive IsSome {α : Type} (form : Json → α → Prop) : Json → Option α → Prop
  | some {v : Json} {x : α} (h : form v x) : IsSome form v (some x)

inductive IsNode : Json → Node → Prop
  | told {v : Json} {es : List (String × Json)} {n : Node}
      (told : v.Tells ["type", "identifier", "children", "depth", "value", "alt", "title", "url",
        "code", "lang", "label", "ordered"] es)
      (kind : Given IsKind (.unsupported "") (es.lookup "type") n.kind)
      (identifier : Given IsIdentifier none (es.lookup "identifier") n.identifier)
      (children : Given (IsList IsNode) [] (es.lookup "children") n.children)
      (depth : Given IsInt64 0 (es.lookup "depth") n.depth)
      (value : Given IsText "" (es.lookup "value") n.value)
      (alt : Given IsText "" (es.lookup "alt") n.alt)
      (title : Given IsText "" (es.lookup "title") n.title)
      (url : Given IsText "" (es.lookup "url") n.url)
      (code : Given IsText "" (es.lookup "code") n.code)
      (lang : Given IsText "" (es.lookup "lang") n.lang)
      (label : Given IsText "" (es.lookup "label") n.label)
      (ordered : Given IsFlag false (es.lookup "ordered") n.ordered) : IsNode v n

inductive IsContent : Json → Content → Prop
  | told {v : Json} {es : List (String × Json)} {c : Content} (told : v.Tells ["type", "children"] es)
      (kind : Given IsText "" (es.lookup "type") c.kind)
      (children : Given (IsList IsNode) [] (es.lookup "children") c.children) : IsContent v c

inductive IsCrop : Json → Crop → Prop
  | told {v : Json} {es : List (String × Json)} {c : Crop}
      (told : v.Tells ["x", "y", "width", "height"] es)
      (x : Given IsInt64 0 (es.lookup "x") c.x) (y : Given IsInt64 0 (es.lookup "y") c.y)
      (width : Given IsInt64 0 (es.lookup "width") c.width)
      (height : Given IsInt64 0 (es.lookup "height") c.height) : IsCrop v c

inductive IsAudioSource : Json → AudioSource → Prop
  | told {v : Json} {es : List (String × Json)} {a : AudioSource}
      (told : v.Tells ["mp3", "kind", "durationMs"] es)
      (mp3 : Given IsText "" (es.lookup "mp3") a.mp3)
      (kind : Given IsText "" (es.lookup "kind") a.kind)
      (durationMs : Given IsUInt64 0 (es.lookup "durationMs") a.durationMs) : IsAudioSource v a

inductive IsFormatInfo : Json → FormatInfo → Prop
  | told {v : Json} {es : List (String × Json)} {f : FormatInfo}
      (told : v.Tells ["path", "title", "kind"] es)
      (path : Given IsText "" (es.lookup "path") f.path)
      (title : Given IsText "" (es.lookup "title") f.title)
      (kind : Given IsText "" (es.lookup "kind") f.kind) : IsFormatInfo v f

inductive IsFormat : Json → Format → Prop
  | told {v : Json} {es : List (String × Json)} {f : Format} (told : v.Tells ["meta"] es)
      (info : Given IsFormatInfo {} (es.lookup "meta") f.info) : IsFormat v f

inductive IsMeta : Json → Meta → Prop
  | told {v : Json} {es : List (String × Json)} {m : Meta}
      (told : v.Tells ["title", "path", "image", "description", "publishDate", "template",
        "estimatedReadingMinutes", "estimatedConsumptionMinutes", "audioCoverCrop", "audioSource",
        "format"] es)
      (title : Given IsText "" (es.lookup "title") m.title)
      (path : Given IsText "" (es.lookup "path") m.path)
      (image : Given IsText "" (es.lookup "image") m.image)
      (description : Given IsText "" (es.lookup "description") m.description)
      (publishDate : Given IsText "" (es.lookup "publishDate") m.publishDate)
      (template : Given IsText "" (es.lookup "template") m.template)
      (readingMinutes : Given IsUInt32 0 (es.lookup "estimatedReadingMinutes") m.readingMinutes)
      (consumptionMinutes :
        Given IsUInt32 0 (es.lookup "estimatedConsumptionMinutes") m.consumptionMinutes)
      (audioCoverCrop :
        Given (IsSome IsCrop) none (es.lookup "audioCoverCrop") m.audioCoverCrop)
      (audioSource : Given (IsSome IsAudioSource) none (es.lookup "audioSource") m.audioSource)
      (format : Given (IsSome IsFormat) none (es.lookup "format") m.format) : IsMeta v m

inductive IsDocument : Json → Document → Prop
  | told {v : Json} {es : List (String × Json)} {d : Document} (told : v.Tells ["id", "meta"] es)
      (id : Given IsText "" (es.lookup "id") d.id)
      (info : Given IsMeta {} (es.lookup "meta") d.info) : IsDocument v d

inductive IsArticle : Json → Article → Prop
  | told {v : Json} {es : List (String × Json)} {a : Article}
      (told : v.Tells ["type", "id", "repoId", "content", "meta"] es)
      (kind : Given IsText "" (es.lookup "type") a.kind)
      (id : Given IsText "" (es.lookup "id") a.id)
      (repoId : Given IsText "" (es.lookup "repoId") a.repoId)
      (content : Given IsContent {} (es.lookup "content") a.content)
      (info : Given IsMeta {} (es.lookup "meta") a.info) : IsArticle v a

inductive IsReply : Json → ArticleReply → Prop
  | told {v : Json} {es : List (String × Json)} {r : ArticleReply} (told : v.Tells ["article"] es)
      (article : Given IsArticle {} (es.lookup "article") r.article) : IsReply v r

end Gazette.Json
