import Gazette.Proofs.Client.Answers
import Gazette.Proofs.Wire.Idle

/-! # Answers with entries that say nothing

What the service adds to an answer beyond what is asked for, and what it leaves out instead of
sending `null`, makes no difference to an operation. -/
namespace Gazette

namespace Client

variable {exchange exchange' : Exchange} {v w : Json} {logged : List Event}

theorem ask_equivalent {data : Wire.Schema} {r : Request} (hdata : data.Lenient)
    (h : (Wire.Schema.envelope data).Equivalent v w) (hv : exchange r = (.ok v, logged))
    (hw : exchange' r = (.ok w, logged)) : ask data exchange r = ask data exchange' r := by
  have henvelope : (Wire.Schema.envelope data).Lenient := hdata
  have hread : Envelope.ofJson data v = Envelope.ofJson data w := by
    rw [Envelope.ofJson, Envelope.ofJson, Wire.read_equivalent henvelope h]
  rw [ask_answered hv, ask_answered hw, hread]

theorem fetch_equivalent {filter : Filter} {limit : UInt32}
    (h : (Wire.Schema.envelope .listing).Equivalent v w)
    (hv : exchange (listingRequest filter limit) = (.ok v, logged))
    (hw : exchange' (listingRequest filter limit) = (.ok w, logged)) :
    fetch exchange filter limit = fetch exchange' filter limit := by
  have hlisting : Wire.Schema.listing.Lenient := trivial
  rw [fetch, fetch, ask_equivalent hlisting h hv hw]

theorem fetchArticle_equivalent {c : Client} {path : String}
    (h : (Wire.Schema.envelope .found).Equivalent v w)
    (hv : exchange (c.articleRequest path) = (.ok v, logged))
    (hw : exchange' (c.articleRequest path) = (.ok w, logged)) :
    c.fetchArticle exchange path = c.fetchArticle exchange' path := by
  have hfound : Wire.Schema.found.Lenient := trivial
  rw [fetchArticle, fetchArticle, ask_equivalent hfound h hv hw]

end Client

/-- Idle entries are without effect on what is read of articles and documents and of their parts, and
on what the operations make of an answer, faults included. -/
theorem idle_entries_unread :
    (∀ s ∈ Wire.Schema.published, ∀ v w : Json, s.Equivalent v w → s.read v = s.read w) ∧
      (∀ (exchange exchange' : Exchange) (filter : Filter) (limit : UInt32) (v w : Json)
        (logged : List Event), (Wire.Schema.envelope .listing).Equivalent v w →
        exchange (Client.listingRequest filter limit) = (.ok v, logged) →
        exchange' (Client.listingRequest filter limit) = (.ok w, logged) →
        Client.fetch exchange filter limit = Client.fetch exchange' filter limit) ∧
      ∀ (c : Client) (exchange exchange' : Exchange) (path : String) (v w : Json)
        (logged : List Event), (Wire.Schema.envelope .found).Equivalent v w →
        exchange (c.articleRequest path) = (.ok v, logged) →
        exchange' (c.articleRequest path) = (.ok w, logged) →
        c.fetchArticle exchange path = c.fetchArticle exchange' path := by
  refine ⟨?_, ?_, ?_⟩
  · exact fun s hs v w h => Wire.read_equivalent (Wire.Schema.lenient_of_published hs) h
  · exact fun _ _ _ _ _ _ _ h hv hw => Client.fetch_equivalent h hv hw
  · exact fun _ _ _ _ _ _ _ h hv hw => Client.fetchArticle_equivalent h hv hw

/-- A heading of some level below a node. -/
def Json.terse (depth : Json) : Json :=
  .obj [("children", .arr [.obj [("depth", depth), ("type", .str "heading")]]),
    ("type", .str "zone")]

/-- The same with `null` for the title of the heading, and with a key that means nothing. -/
def Json.padded (depth : Json) : Json :=
  .obj [("aside", .arr [.null]),
    ("children", .arr [.obj [("depth", depth), ("title", .null), ("type", .str "heading")]]),
    ("type", .str "zone")]

theorem Json.equivalent_padded (depth : Json) :
    Wire.Schema.node.Equivalent (terse depth) (padded depth) := by
  have hheading : Wire.Schema.node.Gains (.obj [("depth", depth), ("type", .str "heading")])
      (.obj [("depth", depth), ("title", .null), ("type", .str "heading")]) :=
    .here [("depth", depth)] [("type", .str "heading")] rfl (.inr rfl)
  have hchildren := Wire.Schema.Gains.item [] [] hheading
  have hentry : Wire.Schema.node.Gains (terse depth) _ := .entry [] _ rfl rfl hchildren
  have haside : Wire.Schema.node.Gains _ (padded depth) := .here [] _ rfl (.inl (by decide))
  exact .trans _ _ _ (.rel _ _ hentry) (.rel _ _ haside)

theorem Json.equivalent_answer {data : Wire.Schema} (v : Json) :
    (Wire.Schema.envelope data).Equivalent (.obj [("data", v)])
      (.obj [("data", v), ("errors", .null), ("extensions", .obj [])]) := by
  have herrors : (Wire.Schema.envelope data).Gains (.obj [("data", v)])
      (.obj [("data", v), ("errors", .null)]) := .here [("data", v)] [] rfl (.inr rfl)
  have hextensions : (Wire.Schema.envelope data).Gains (.obj [("data", v), ("errors", .null)])
      (.obj [("data", v), ("errors", .null), ("extensions", .obj [])]) := by
    refine .here [("data", v), ("errors", .null)] [] rfl (.inl ?_)
    simp [Wire.Record.keys, Wire.Record.envelope]
  exact .trans _ _ _ (.rel _ _ herrors) (.rel _ _ hextensions)

/-- Two trees that are read alike, two that are alike no trees, and two answers. -/
theorem idle_entries_unread_padded :
    let v : Json := .obj [("data", .obj [])]
    let w : Json := .obj [("data", .obj []), ("errors", .null), ("extensions", .obj [])]
    let c : Client := { config := { sessionId := "s" } }
    Wire.Schema.node.read (.terse (.int 9)) = Wire.Schema.node.read (.padded (.int 9)) ∧
      Wire.Schema.node.read (.terse (.float 1)) = Wire.Schema.node.read (.padded (.float 1)) ∧
      Client.fetch (fun _ => (.ok v, [])) {} 7 = Client.fetch (fun _ => (.ok w, [])) {} 7 ∧
      c.fetchArticle (fun _ => (.ok v, [])) "/a" = c.fetchArticle (fun _ => (.ok w, [])) "/a" := by
  intro v w c
  obtain ⟨hread, hfetch, harticle⟩ := idle_entries_unread
  have hnode : Wire.Schema.node ∈ Wire.Schema.published := by decide
  refine ⟨?_, ?_, ?_, ?_⟩
  · exact hread .node hnode _ _ (Json.equivalent_padded (.int 9))
  · exact hread .node hnode _ _ (Json.equivalent_padded (.float 1))
  · exact hfetch _ _ {} 7 v w [] (Json.equivalent_answer (.obj [])) rfl rfl
  · exact harticle c _ _ "/a" v w [] (Json.equivalent_answer (.obj [])) rfl rfl

end Gazette
