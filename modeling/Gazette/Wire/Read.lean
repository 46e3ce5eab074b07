import Gazette.Wire.Mismatch
import Gazette.Wire.Schema

/-! # Values read as what they stand for

A record is read from an object, whatever else the object holds, or from an array of its fields in
their order. The first misfit ends the reading. -/
namespace Gazette.Wire

/-- A whole number in the given width. -/
def Width.read (width : Width) (n : Int) : Except Mismatch width.Carrier :=
  match width.ofInt? n with
  | some x => .ok x
  | none => .error (.outOfRange n width.name)

/-- Every field that may not be left out of an object is among the keys. -/
def Record.checkKeys {ρ : Type} (r : Record ρ) (keys : List String) : Except Mismatch Unit :=
  match r.fields.find? fun f => f.absence = .never ∧ f.key ∉ keys with
  | none => .ok ()
  | some f => .error (.missing f.key)

/-- An array of some length ends neither before a field that has to be there nor behind the last. -/
def Record.checkLength {ρ : Type} (r : Record ρ) (length : Nat) : Except Mismatch Unit :=
  if r.fields.length < length then .error (.tooLong length)
  else match (r.fields.drop length).findIdx? fun f => f.absence ≠ .always with
    | none => .ok ()
    | some i => .error (.tooShort (length + i) r.name r.fields.length)

/-- The field of a key. -/
def Record.field? {ρ : Type} (r : Record ρ) (key : String) : Option (Field ρ) :=
  r.fields.find? fun f => f.key = key

/-- Whether a value stands for the absence of a field. -/
def Field.skips {ρ : Type} (f : Field ρ) : Json → Bool
  | .null => f.nullable
  | _ => false

mutual
/-- Reads a value as a form. -/
def Schema.read : (s : Schema) → Json → Except Mismatch s.Carrier
  | .any, v => .ok v
  | .text, .str t => .ok t
  | .kind, .str t => .ok (.ofName t)
  | .identifier, .str t => .ok (.ofName t)
  | .flag, .bool b => .ok b
  | .integer width, .int n => width.read n
  | .list item, .arr vs => readItems item vs
  | s, .arr vs =>
    match s.record? with
    | some r => do
      let x ← readFields s r.fields vs r.start
      r.checkLength vs.length
      .ok x
    | none => .error (.wrongType .sequence s.expected)
  | s, .obj es =>
    match s.record? with
    | some r => do
      let x ← readEntries s r es r.start
      r.checkKeys (es.map Prod.fst)
      .ok x
    | none => .error (.wrongType .map s.expected)
  | s, v => .error (.wrongType (.ofJson v) s.expected)
  termination_by structural _ v => v
/-- Reads the items of a list. -/
def readItems (item : Schema) : List Json → Except Mismatch (List item.Carrier)
  | [] => .ok []
  | v :: vs => do
    let x ← item.read v
    let xs ← readItems item vs
    .ok (x :: xs)
  termination_by structural vs => vs
/-- Reads fields in their order into a record. -/
def readFields (s : Schema) :
    List (Field s.Carrier) → List Json → s.Carrier → Except Mismatch s.Carrier
  | f :: fs, v :: vs, x =>
    if f.skips v then readFields s fs vs x
    else do
      let y ← f.schema.read v
      readFields s fs vs (f.put y x)
  | _, _, x => .ok x
  termination_by structural _ vs => vs
/-- Reads named fields into a record; what is no field of it is passed over. -/
def readEntries (s : Schema) (r : Record s.Carrier) :
    List (String × Json) → s.Carrier → Except Mismatch s.Carrier
  | [], x => .ok x
  | (key, v) :: es, x =>
    match r.field? key with
    | none => readEntries s r es x
    | some f =>
      if f.skips v then readEntries s r es x
      else do
        let y ← f.schema.read v
        readEntries s r es (f.put y x)
  termination_by structural es => es
end

end Gazette.Wire
