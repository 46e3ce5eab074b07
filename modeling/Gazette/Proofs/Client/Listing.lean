import Gazette.Proofs.Client.Answers
import Gazette.Proofs.Wire.Documents

/-! # Listings as they are fetched

The service lists documents, with places between them at which something else stands. All documents
arrive, each as it was sent. -/
namespace Gazette

/-- What may be sent for a place of a listing. -/
inductive SentSlot where
  | document (d : Document)
  | null
  | empty
  deriving DecidableEq

namespace SentSlot

def toJson : SentSlot → Json
  | .document d => .obj [("entity", d.toJson)]
  | .null => .obj [("entity", .null)]
  | .empty => .obj []

def document? : SentSlot → Option Document
  | .document d => some d
  | .null | .empty => none

theorem read_toJson (s : SentSlot) :
    Wire.Schema.slot.read s.toJson = .ok { entity := s.document? } := by
  cases s with
  | document d => exact Wire.Schema.read_single rfl rfl rfl (Wire.read_document d) rfl rfl
  | null => rfl
  | empty => rfl

end SentSlot

/-- The data of a listing of the given places. -/
def Listing.sent (slots : List SentSlot) : Json :=
  .obj [("documents", .obj [("nodes", .arr (slots.map SentSlot.toJson))])]

theorem Listing.read_sent (slots : List SentSlot) : Wire.Schema.listing.read (sent slots) =
    .ok { slots := { nodes := slots.map fun s => { entity := s.document? } } } := by
  have hnodes : (Wire.Schema.list .slot).read (.arr (slots.map SentSlot.toJson)) =
      .ok (slots.map fun s => { entity := s.document? }) :=
    Wire.readItems_map fun s _ => s.read_toJson
  have hslots : Wire.Schema.slots.read (.obj [("nodes", .arr (slots.map SentSlot.toJson))]) =
      .ok { nodes := slots.map fun s => { entity := s.document? } } :=
    Wire.Schema.read_single rfl rfl rfl hnodes rfl rfl
  exact Wire.Schema.read_single rfl rfl rfl hslots rfl rfl

/-- Of the places that are sent, exactly the documents arrive, as they were and in their order, and
their number is logged. -/
theorem fetch_listing_sent {slots : List SentSlot} {exchange : Exchange} {filter : Filter}
    {limit : UInt32} {logged : List Event}
    (h : exchange (Client.listingRequest filter limit) =
      (.ok (.obj [("data", Listing.sent slots)]), logged)) :
    (Client.fetch exchange filter limit).result = .ok (slots.filterMap SentSlot.document?) ∧
      (Client.fetch exchange filter limit).events =
        .fetching limit filter.text ::
          (logged ++ [.fetched (slots.filterMap SentSlot.document?).length]) := by
  have hask := Client.ask_data (by simp [Listing.sent]) (Listing.read_sent slots) h
  have hdocuments : Listing.documents
      { slots := { nodes := slots.map fun s => { entity := s.document? } } } =
        slots.filterMap SentSlot.document? := by
    rw [Listing.documents, List.filterMap_map]
    rfl
  rw [Client.fetch_of_data hask, hdocuments]
  exact ⟨rfl, rfl⟩

/-- A document with numbers at the ends of their ranges, and with parts that hold nothing. -/
def Document.extreme : Document where
  id := "a"
  info := {
    title := "b \"c\""
    readingMinutes := 4294967295
    audioCoverCrop := some { x := -9223372036854775808, height := 9223372036854775807 }
    audioSource := some { durationMs := 18446744073709551615 }
    format := some {} }

theorem fetch_listing_sent_gaps :
    let slots : List SentSlot :=
      [.null, .document .extreme, .empty, .document {}, .document .extreme]
    let exchange : Exchange := fun _ => (.ok (.obj [("data", Listing.sent slots)]), [.received 9])
    (Client.fetch exchange {} 7).result = .ok [.extreme, {}, .extreme] ∧
      (Client.fetch exchange {} 7).events = [.fetching 7 "", .received 9, .fetched 3] := by
  intro slots exchange
  have h : exchange (Client.listingRequest {} 7) =
      (.ok (.obj [("data", Listing.sent slots)]), [.received 9]) := rfl
  exact fetch_listing_sent h

end Gazette
