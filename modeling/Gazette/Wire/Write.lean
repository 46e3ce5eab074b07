import Gazette.Wire.Schema

/-! # Values written as they are sent

Every field is written, an identifier only if there is one. Keys stand in their order. -/
namespace Gazette

namespace Node

def identifierEntry : Option Identifier → List (String × Json)
  | none => []
  | some i => [("identifier", .str i.name)]

mutual
def toJson : Node → Json
  | ⟨kind, identifier, children, depth, value, alt, title, url, code, lang, label, ordered⟩ =>
    .obj <| [("alt", .str alt), ("children", .arr (toItems children)), ("code", .str code),
      ("depth", .int depth.toInt)] ++ identifierEntry identifier ++
      [("label", .str label), ("lang", .str lang), ("ordered", .bool ordered),
        ("title", .str title), ("type", .str kind.name), ("url", .str url), ("value", .str value)]
  termination_by structural n => n
def toItems : List Node → List Json
  | [] => []
  | n :: ns => n.toJson :: toItems ns
  termination_by structural ns => ns
end

end Node

def Content.toJson (c : Content) : Json :=
  .obj [("children", .arr (Node.toItems c.children)), ("type", .str c.kind)]

def Crop.toJson (c : Crop) : Json :=
  .obj [("height", .int c.height.toInt), ("width", .int c.width.toInt), ("x", .int c.x.toInt),
    ("y", .int c.y.toInt)]

def AudioSource.toJson (a : AudioSource) : Json :=
  .obj [("durationMs", .int a.durationMs.toNat), ("kind", .str a.kind), ("mp3", .str a.mp3)]

def FormatInfo.toJson (f : FormatInfo) : Json :=
  .obj [("kind", .str f.kind), ("path", .str f.path), ("title", .str f.title)]

def Format.toJson (f : Format) : Json := .obj [("meta", f.info.toJson)]

/-- `null` for none. -/
def Json.ofOption {α : Type} (toJson : α → Json) : Option α → Json
  | none => .null
  | some x => toJson x

def Meta.toJson (m : Meta) : Json :=
  .obj [("audioCoverCrop", .ofOption Crop.toJson m.audioCoverCrop),
    ("audioSource", .ofOption AudioSource.toJson m.audioSource),
    ("description", .str m.description),
    ("estimatedConsumptionMinutes", .int m.consumptionMinutes.toNat),
    ("estimatedReadingMinutes", .int m.readingMinutes.toNat),
    ("format", .ofOption Format.toJson m.format),
    ("image", .str m.image), ("path", .str m.path), ("publishDate", .str m.publishDate),
    ("template", .str m.template), ("title", .str m.title)]

def Document.toJson (d : Document) : Json := .obj [("id", .str d.id), ("meta", d.info.toJson)]

def Article.toJson (a : Article) : Json :=
  .obj [("content", a.content.toJson), ("id", .str a.id), ("meta", a.info.toJson),
    ("repoId", .str a.repoId), ("type", .str a.kind)]

def ArticleReply.toJson (r : ArticleReply) : Json := .obj [("article", r.article.toJson)]

def Config.toJson (c : Config) : Json :=
  .obj [("api_url", .str c.apiUrl), ("session_id", .str c.sessionId)]

end Gazette
