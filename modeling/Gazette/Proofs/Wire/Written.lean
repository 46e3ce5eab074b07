import Gazette.Proofs.Json.RoundTrip
import Gazette.Proofs.Tree.Traversal
import Gazette.Wire.Write

/-! # What is written, as a value

The entries of what is written are in order, its numbers have texts of their own, and every node
stands two brackets deeper than the one above it. -/
namespace Gazette
namespace Json

/-- An object with its entries in order, or what has a text of its own. -/
def Proper : Json → Prop
  | .obj entries => Ascending entries
  | v => v.HasText

theorem Throughout.mono {P Q : Json → Prop} (hpq : ∀ v, P v → Q v) {v : Json}
    (h : v.Throughout P) : v.Throughout Q := by
  induction v using Json.walk with
  | step v ih =>
    obtain ⟨hv, hparts⟩ := throughout_iff.1 h
    exact throughout_iff.2 ⟨hpq v hv, fun w hw => ih w hw (hparts w hw)⟩

theorem Throughout.exact {v : Json} (h : v.Throughout Proper) : v.Exact := by
  refine h.mono fun v hv => ?_
  cases v with
  | obj es => trivial
  | null | bool _ | int _ | float _ | str _ | arr _ => exact hv

theorem Throughout.wellFormed {v : Json} (h : v.Throughout Proper) : v.WellFormed := by
  induction v using Json.walk with
  | step v ih =>
    obtain ⟨hv, hparts⟩ := throughout_iff.1 h
    have hbelow (w : Json) (hw : w ∈ v.parts) : w.WellFormed := ih w hw (hparts w hw)
    cases v with
    | arr vs => exact wellFormedItems_iff.2 hbelow
    | obj es => exact ⟨hv, wellFormedEntries_iff.2 hbelow⟩
    | int n => exact hv
    | null | bool _ | float _ | str _ => trivial

section
variable {es : List (String × Json)} {vs : List Json}

theorem proper_obj (hk : (es.map Prod.fst).Pairwise (· < ·))
    (h : ∀ e ∈ es, e.2.Throughout Proper) : (Json.obj es).Throughout Proper :=
  throughout_iff.2 ⟨List.pairwise_map.1 hk, List.forall_mem_map.2 h⟩

theorem proper_arr (h : ∀ v ∈ vs, v.Throughout Proper) : (Json.arr vs).Throughout Proper :=
  throughout_iff.2 ⟨trivial, h⟩

@[simp] theorem proper_bool (b : Bool) : (Json.bool b).Throughout Proper := trivial

@[simp] theorem proper_str (s : String) : (Json.str s).Throughout Proper := trivial

@[simp] theorem proper_int64 (x : Int64) : (Json.int x.toInt).Throughout Proper := by
  have hlow := x.le_toInt
  have hhigh := x.toInt_lt
  exact ⟨by omega, by omega⟩

@[simp] theorem proper_uint32 (x : UInt32) : (Json.int x.toNat).Throughout Proper := by
  have hhigh := x.toNat_lt
  exact ⟨by omega, by omega⟩

@[simp] theorem proper_uint64 (x : UInt64) : (Json.int x.toNat).Throughout Proper := by
  have hhigh := x.toNat_lt
  exact ⟨by omega, by omega⟩

theorem proper_ofOption {α : Type} {toJson : α → Json} (h : ∀ x, (toJson x).Throughout Proper)
    (x : Option α) : (ofOption toJson x).Throughout Proper := by
  cases x with
  | none => trivial
  | some x => exact h x

end
end Json

open Json (Proper Throughout proper_obj proper_arr)

namespace Node

theorem proper_written :
    (∀ n : Node, n.toJson.Throughout Proper) ∧ ∀ ns, ∀ v ∈ toItems ns, v.Throughout Proper := by
  apply walk
  · intro n ih
    have hchildren : (Json.arr (toItems n.children)).Throughout Proper := proper_arr ih
    obtain ⟨kind, identifier, children, depth, value, alt, title, url, code, lang, label,
      ordered⟩ := n
    cases identifier with
    | none =>
      refine proper_obj ?_ (by simp [identifierEntry, hchildren])
      simp only [identifierEntry, List.cons_append, List.nil_append, List.map_cons, List.map_nil]
      decide
    | some i =>
      refine proper_obj ?_ (by simp [identifierEntry, hchildren])
      simp only [identifierEntry, List.cons_append, List.nil_append, List.map_cons, List.map_nil]
      decide
  · simp [toItems]
  · intro n ns hn hns
    exact List.forall_mem_cons.2 ⟨hn, hns⟩

/-- Every node stands in the list of an object, two brackets deeper than the one above it. -/
theorem depth_written : (∀ n : Node, n.toJson.depth = 2 * n.height) ∧
    ∀ ns, Json.depthItems (toItems ns) = 2 * heightAll ns := by
  apply walk
  · intro n ih
    obtain ⟨kind, identifier, children, depth, value, alt, title, url, code, lang, label,
      ordered⟩ := n
    have hchildren : Json.depthItems (toItems children) = 2 * heightAll children := ih
    cases identifier <;>
      simp [toJson, identifierEntry, height, Json.depth, Json.depthEntries, hchildren] <;>
      omega
  · rfl
  · intro n ns hn hns
    rw [toItems, Json.depthItems, hn, hns, heightAll]
    omega

end Node

theorem Crop.proper_toJson (c : Crop) : c.toJson.Throughout Proper :=
  proper_obj (by simp only [List.map_cons, List.map_nil]; decide) (by simp)

theorem AudioSource.proper_toJson (a : AudioSource) : a.toJson.Throughout Proper :=
  proper_obj (by simp only [List.map_cons, List.map_nil]; decide) (by simp)

theorem FormatInfo.proper_toJson (f : FormatInfo) : f.toJson.Throughout Proper :=
  proper_obj (by simp only [List.map_cons, List.map_nil]; decide) (by simp)

theorem Format.proper_toJson (f : Format) : f.toJson.Throughout Proper :=
  proper_obj (List.pairwise_singleton ..) (by simp [f.info.proper_toJson])

theorem Meta.proper_toJson (m : Meta) : m.toJson.Throughout Proper := by
  refine proper_obj (by simp only [List.map_cons, List.map_nil]; decide) ?_
  simp [Json.proper_ofOption Crop.proper_toJson, Json.proper_ofOption AudioSource.proper_toJson,
    Json.proper_ofOption Format.proper_toJson]

theorem Meta.depth_toJson (m : Meta) : m.toJson.depth ≤ 3 := by
  have hcrop : (Json.ofOption Crop.toJson m.audioCoverCrop).depth ≤ 1 := by
    cases m.audioCoverCrop <;> simp [Json.ofOption, Crop.toJson, Json.depth, Json.depthEntries]
  have haudio : (Json.ofOption AudioSource.toJson m.audioSource).depth ≤ 1 := by
    cases m.audioSource <;> simp [Json.ofOption, AudioSource.toJson, Json.depth, Json.depthEntries]
  have hformat : (Json.ofOption Format.toJson m.format).depth ≤ 2 := by
    cases m.format <;>
      simp [Json.ofOption, Format.toJson, FormatInfo.toJson, Json.depth, Json.depthEntries]
  simp [Meta.toJson, Json.depth, Json.depthEntries]
  omega

namespace ArticleReply

theorem proper_toJson (r : ArticleReply) : r.toJson.Throughout Proper := by
  have hchildren : (Json.arr (Node.toItems r.article.content.children)).Throughout Proper :=
    proper_arr (Node.proper_written.2 _)
  have hcontent : r.article.content.toJson.Throughout Proper :=
    proper_obj (by simp only [List.map_cons, List.map_nil]; decide) (by simp [hchildren])
  have harticle : r.article.toJson.Throughout Proper :=
    proper_obj (by simp only [List.map_cons, List.map_nil]; decide)
      (by simp [hcontent, r.article.info.proper_toJson])
  exact proper_obj (List.pairwise_singleton ..) (by simp [harticle])

theorem proper_answer (r : ArticleReply) : (Json.obj [("data", r.toJson)]).Throughout Proper :=
  proper_obj (List.pairwise_singleton ..) (by simp [r.proper_toJson])

/-- Five brackets stand around the nodes of an article. -/
theorem depth_answer (r : ArticleReply) : (Json.obj [("data", r.toJson)]).depth =
    max (2 * Node.heightAll r.article.content.children + 5) (r.article.info.toJson.depth + 3) := by
  have hchildren := Node.depth_written.2 r.article.content.children
  simp [ArticleReply.toJson, Article.toJson, Content.toJson, Json.depth, Json.depthEntries,
    hchildren]
  omega

end ArticleReply
end Gazette
