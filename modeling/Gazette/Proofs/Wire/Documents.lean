import Gazette.Proofs.Wire.RoundTrip

/-! # Documents and articles written and read again

What has been written of a document is read as that document, and what has been written of an
article as the article with the canonical form of its text. -/
namespace Gazette

def Content.canonical (c : Content) : Content := { c with children := Node.canonicalAll c.children }

def Article.canonical (a : Article) : Article := { a with content := a.content.canonical }

/-- The article with every node of its text taken for what its names say. -/
def ArticleReply.canonical (r : ArticleReply) : ArticleReply := { article := r.article.canonical }

namespace Wire

theorem read_uint32 (x : UInt32) : (Schema.integer .uint32).read (.int x.toNat) = .ok x := by
  change Width.read .uint32 x.toNat = _
  rw [Width.read, Width.ofInt?_uint32]

theorem read_uint64 (x : UInt64) : (Schema.integer .uint64).read (.int x.toNat) = .ok x := by
  change Width.read .uint64 x.toNat = _
  rw [Width.read, Width.ofInt?_uint64]

theorem read_crop (c : Crop) : Schema.crop.read c.toJson = .ok c := by
  rw [Crop.toJson, Schema.read_obj rfl, readEntries_field rfl rfl (read_int64 c.height),
    readEntries_field rfl rfl (read_int64 c.width), readEntries_field rfl rfl (read_int64 c.x),
    readEntries_field rfl rfl (read_int64 c.y)]
  rfl

theorem read_audioSource (a : AudioSource) : Schema.audioSource.read a.toJson = .ok a := by
  rw [AudioSource.toJson, Schema.read_obj rfl, readEntries_field rfl rfl (read_uint64 a.durationMs),
    readEntries_field rfl rfl rfl, readEntries_field rfl rfl rfl]
  rfl

theorem read_formatInfo (f : FormatInfo) : Schema.formatInfo.read f.toJson = .ok f := by
  rw [FormatInfo.toJson, Schema.read_obj rfl, readEntries_field rfl rfl rfl,
    readEntries_field rfl rfl rfl, readEntries_field rfl rfl rfl]
  rfl

theorem read_format (f : Format) : Schema.format.read f.toJson = .ok f :=
  Schema.read_single rfl rfl rfl (read_formatInfo f.info) rfl rfl

/-- An entry that is `null` for none is read as the option it was written from. -/
theorem readEntries_option {s : Schema} {r : Record s.Carrier} {key : String} {f : Field s.Carrier}
    {α : Type} {toJson : α → Json} {x : s.Carrier} (put : Option α → s.Carrier)
    (hf : r.field? key = some f) (hn : f.nullable = true) (hx : put none = x)
    (ha : ∀ a, ∃ y, f.skips (toJson a) = false ∧ f.schema.read (toJson a) = .ok y ∧
      f.put y x = put (some a)) (a : Option α) (es : List (String × Json)) :
    readEntries s r ((key, .ofOption toJson a) :: es) x = readEntries s r es (put a) := by
  cases a with
  | none =>
    have hskip : f.skips .null = true := hn
    rw [Json.ofOption, readEntries, hf, hx]
    simp [hskip]
  | some a =>
    obtain ⟨y, hs, hy, hput⟩ := ha a
    rw [Json.ofOption, readEntries_field hf hs hy, hput]

section
variable (es : List (String × Json)) (m : Meta)

theorem readEntries_audioCoverCrop (crop : Option Crop) (h : m.audioCoverCrop = none) :
    readEntries .info Record.info (("audioCoverCrop", .ofOption Crop.toJson crop) :: es) m =
      readEntries .info Record.info es { m with audioCoverCrop := crop } := by
  have hm : { m with audioCoverCrop := none } = m := by rw [← h]
  exact readEntries_option (s := .info) (fun crop => { m with audioCoverCrop := crop }) rfl rfl hm
    (fun c => ⟨c, rfl, read_crop c, rfl⟩) crop es

theorem readEntries_audioSource (source : Option AudioSource) (h : m.audioSource = none) :
    readEntries .info Record.info (("audioSource", .ofOption AudioSource.toJson source) :: es) m =
      readEntries .info Record.info es { m with audioSource := source } := by
  have hm : { m with audioSource := none } = m := by rw [← h]
  exact readEntries_option (s := .info) (fun source => { m with audioSource := source }) rfl rfl hm
    (fun a => ⟨a, rfl, read_audioSource a, rfl⟩) source es

theorem readEntries_format (format : Option Format) (h : m.format = none) :
    readEntries .info Record.info (("format", .ofOption Format.toJson format) :: es) m =
      readEntries .info Record.info es { m with format := format } := by
  have hm : { m with format := none } = m := by rw [← h]
  exact readEntries_option (s := .info) (fun format => { m with format := format }) rfl rfl hm
    (fun f => ⟨f, rfl, read_format f, rfl⟩) format es

end

theorem read_info (m : Meta) : Schema.info.read m.toJson = .ok m := by
  rw [Meta.toJson, Schema.read_obj rfl]
  -- One step for every entry, in the order of the keys.
  rw [readEntries_audioCoverCrop _ _ _ rfl, readEntries_audioSource _ _ _ rfl,
    readEntries_field rfl rfl rfl, readEntries_field rfl rfl (read_uint32 m.consumptionMinutes),
    readEntries_field rfl rfl (read_uint32 m.readingMinutes), readEntries_format _ _ _ rfl,
    readEntries_field rfl rfl rfl, readEntries_field rfl rfl rfl, readEntries_field rfl rfl rfl,
    readEntries_field rfl rfl rfl, readEntries_field rfl rfl rfl]
  rfl

theorem read_document (d : Document) : Schema.document.read d.toJson = .ok d := by
  rw [Document.toJson, Schema.read_obj rfl, readEntries_field rfl rfl rfl,
    readEntries_field rfl rfl (read_info d.info)]
  rfl

theorem read_content (c : Content) : Schema.content.read c.toJson = .ok c.canonical := by
  have hchildren : (Schema.list .node).read (.arr (Node.toItems c.children)) =
      .ok (Node.canonicalAll c.children) := read_written.2 c.children
  rw [Content.toJson, Schema.read_obj rfl, readEntries_field rfl rfl hchildren,
    readEntries_field rfl rfl rfl]
  rfl

theorem read_article (a : Article) : Schema.article.read a.toJson = .ok a.canonical := by
  rw [Article.toJson, Schema.read_obj rfl, readEntries_field rfl rfl (read_content a.content),
    readEntries_field rfl rfl rfl, readEntries_field rfl rfl (read_info a.info),
    readEntries_field rfl rfl rfl, readEntries_field rfl rfl rfl]
  rfl

end Wire
end Gazette
