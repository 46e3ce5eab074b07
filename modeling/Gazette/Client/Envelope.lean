import Gazette.Article
import Gazette.Json.Basic

/-! # What the service sends around its data -/
namespace Gazette

/-- An error the service reports, with the place in the answer it belongs to. -/
structure ErrorEntry where
  message : String := ""
  path : List Json := []

/-- An answer: data, errors, or both. -/
structure Envelope (α : Type) where
  data : Option α := none
  errors : List ErrorEntry := []

/-- A place in a listing; what stands there may be no document. -/
structure Slot where
  entity : Option Document := none

structure Slots where
  nodes : List Slot := []

/-- The data of a listing. -/
structure Listing where
  slots : Slots := {}

/-- The data of a request for one article. -/
structure Found where
  article : Option Article := none

/-- The documents of a listing in their order. -/
def Listing.documents (l : Listing) : List Document := l.slots.nodes.filterMap Slot.entity

end Gazette
