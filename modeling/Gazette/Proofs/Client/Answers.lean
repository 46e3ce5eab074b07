import Gazette.Client.Basic
import Gazette.Proofs.Wire.ReadLaws

/-! # What the client makes of an answer

An answer is read with its envelope, and the data are taken out of it. An operation passes on what
becomes of its own data, and logs around what is logged meanwhile. -/
namespace Gazette

theorem Envelope.ofJson_data {data : Wire.Schema} {v : Json} {x : data.Carrier} (h : v ≠ .null)
    (hx : data.read v = .ok x) : ofJson data (.obj [("data", v)]) = .ok { data := some x } := by
  have hread : (Wire.Schema.envelope data).read (.obj [("data", v)]) = .ok { data := some x } :=
    Wire.Schema.read_single rfl rfl (Wire.Field.skips_of_ne_null h) hx rfl rfl
  rw [ofJson, hread]
  rfl

namespace Client

variable {exchange : Exchange} {logged : List Event}

theorem ask_answered {data : Wire.Schema} {r : Request} {v : Json}
    (h : exchange r = (.ok v, logged)) :
    ask data exchange r = (Envelope.ofJson data v >>= Envelope.take, logged) := by
  rw [ask, h]
  rfl

theorem ask_data {data : Wire.Schema} {r : Request} {v : Json} {x : data.Carrier} (hv : v ≠ .null)
    (hx : data.read v = .ok x) (h : exchange r = (.ok (.obj [("data", v)]), logged)) :
    ask data exchange r = (.ok x, logged) := by
  rw [ask_answered h, Envelope.ofJson_data hv hx]
  rfl

theorem ask_fault {data : Wire.Schema} {r : Request} {f : Fault}
    (h : exchange r = (.error f, logged)) : ask data exchange r = (.error f, logged) := by
  rw [ask, h]
  rfl

theorem fetch_of_data {filter : Filter} {limit : UInt32} {l : Listing}
    (h : ask .listing exchange (listingRequest filter limit) = (.ok l, logged)) :
    fetch exchange filter limit = ⟨.ok l.documents, [listingRequest filter limit],
      .fetching limit filter.text :: (logged ++ [.fetched l.documents.length])⟩ := by
  rw [fetch, h]
  rfl

theorem fetch_of_fault {filter : Filter} {limit : UInt32} {f : Fault}
    (h : ask .listing exchange (listingRequest filter limit) = (.error f, logged)) :
    (fetch exchange filter limit).result = .error f := by
  rw [fetch, h]
  rfl

theorem fetchArticle_of_data {c : Client} {path : String} {a : Article}
    (h : ask .found exchange (c.articleRequest path) = (.ok { article := some a }, logged)) :
    c.fetchArticle exchange path =
      ⟨.ok { article := a }, [c.articleRequest path], .fetchingArticle path :: logged⟩ := by
  rw [fetchArticle, h]
  rfl

theorem fetchArticle_of_fault {c : Client} {path : String} {f : Fault}
    (h : ask .found exchange (c.articleRequest path) = (.error f, logged)) :
    (c.fetchArticle exchange path).result = .error f := by
  rw [fetchArticle, h]
  rfl

theorem articleHtml_of_fault {c : Client} {path : String} {f : Fault}
    (h : (c.fetchArticle exchange path).result = .error f) :
    (c.articleHtml exchange path).result = placeholder := by
  rw [articleHtml, h]

end Client
end Gazette
