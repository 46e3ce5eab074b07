/-! # Documents of a listing -/
namespace Gazette

/-- A rectangle in the pixels of an image. -/
structure Crop where
  x : Int64 := 0
  y : Int64 := 0
  width : Int64 := 0
  height : Int64 := 0
  deriving DecidableEq, Repr

/-- A recording of a document. -/
structure AudioSource where
  /-- Where it can be played from; empty if nowhere. -/
  mp3 : String := ""
  kind : String := ""
  durationMs : UInt64 := 0
  deriving DecidableEq, Repr

/-- What is known of a format, the series a document belongs to. -/
structure FormatInfo where
  path : String := ""
  title : String := ""
  kind : String := ""
  deriving DecidableEq, Repr

structure Format where
  info : FormatInfo := {}
  deriving DecidableEq, Repr

/-- What is known of a document besides its text. -/
structure Meta where
  title : String := ""
  path : String := ""
  image : String := ""
  description : String := ""
  publishDate : String := ""
  template : String := ""
  readingMinutes : UInt32 := 0
  consumptionMinutes : UInt32 := 0
  audioCoverCrop : Option Crop := none
  audioSource : Option AudioSource := none
  format : Option Format := none
  deriving DecidableEq, Repr

structure Document where
  id : String := ""
  info : Meta := {}
  deriving DecidableEq, Repr

namespace AudioSource

/-- Whole seconds of the recording, and the rest in nanoseconds. -/
def duration (a : AudioSource) : UInt64 × UInt64 :=
  (a.durationMs / 1000, a.durationMs % 1000 * 1000000)

end AudioSource

namespace Document

/-- Whether there is a recording that can be played. -/
def hasAudio (d : Document) : Bool := d.info.audioSource.any fun a => a.mp3 ≠ ""

/-- The title of the format, unless it is empty. -/
def formatTitle? (d : Document) : Option String :=
  (d.info.format.map fun f => f.info.title).filter (· ≠ "")

end Document
end Gazette
