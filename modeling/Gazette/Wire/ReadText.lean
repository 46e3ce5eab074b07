import Gazette.Wire.Read
import Gazette.Json.Parse

/-! # Texts read as what they stand for

Like reading a value, but in the order of the text: a misfit that stands before the place where the
text stops being JSON is found first. What belongs to no field only has to have the form of JSON. A
field may not be given twice. -/
namespace Gazette.Wire
open Gazette.Json

inductive TextFault where
  | malformed
  | mismatch (m : Mismatch)

/-- A text without this flaw or break. -/
def unbroken : Option Break → Except TextFault Unit
  | none => .ok ()
  | some _ => .error .malformed

def checked {α : Type} : Except Mismatch α → Except TextFault α
  | .ok x => .ok x
  | .error m => .error (.mismatch m)

/-- The complaint that a draft is not what was expected. A bracket is enough to tell. -/
def misfit (expected : String) : Draft → TextFault
  | .null => .mismatch (.wrongType .null expected)
  | .bool b => .mismatch (.wrongType (.bool b) expected)
  | .int n => .mismatch (.wrongType (.int n) expected)
  | .float x => .mismatch (.wrongType (.float x) expected)
  | .str t => .mismatch (.wrongType (.str t) expected)
  | .arr _ _ _ => .mismatch (.wrongType .sequence expected)
  | .obj _ _ _ => .mismatch (.wrongType .map expected)
  | .flawed _ | .broken _ => .malformed

def Field.skipsDraft {ρ : Type} (f : Field ρ) : Draft → Bool
  | .null => f.nullable
  | _ => false

mutual
/-- Reads a draft as a form. -/
def Schema.readDraft : (s : Schema) → Draft → Except TextFault s.Carrier
  | .any, d =>
    match d.toJson with
    | .ok v => .ok v
    | .error _ => .error .malformed
  | .text, .str t => .ok t
  | .kind, .str t => .ok (.ofName t)
  | .identifier, .str t => .ok (.ofName t)
  | .flag, .bool b => .ok b
  | .integer width, .int n => checked (width.read n)
  | .list item, .arr flaw ds stop => do
    unbroken flaw
    let xs ← readDraftItems item ds
    unbroken stop
    .ok xs
  | s, .arr flaw ds stop =>
    match s.record? with
    | some r => do
      unbroken flaw
      let x ← readDraftFields s r.fields ds r.start
      unbroken stop
      if r.fields.length < ds.length then .error .malformed
      checked (r.checkLength ds.length)
      .ok x
    | none => .error (misfit s.expected (.arr flaw ds stop))
  | s, .obj flaw es stop =>
    match s.record? with
    | some r => do
      unbroken flaw
      let (keys, x) ← readDraftEntries s r [] es r.start
      unbroken stop
      checked (r.checkKeys keys)
      .ok x
    | none => .error (misfit s.expected (.obj flaw es stop))
  | s, d => .error (misfit s.expected d)
  termination_by structural _ d => d
def readDraftItems (item : Schema) : List Draft → Except TextFault (List item.Carrier)
  | [] => .ok []
  | d :: ds => do
    let x ← item.readDraft d
    let xs ← readDraftItems item ds
    .ok (x :: xs)
  termination_by structural ds => ds
def readDraftFields (s : Schema) :
    List (Field s.Carrier) → List Draft → s.Carrier → Except TextFault s.Carrier
  | f :: fs, d :: ds, x =>
    if f.skipsDraft d then readDraftFields s fs ds x
    else do
      let y ← f.schema.readDraft d
      readDraftFields s fs ds (f.put y x)
  | _, _, x => .ok x
  termination_by structural _ ds => ds
/-- Reads named fields into a record, with the keys of the fields already given. -/
def readDraftEntries (s : Schema) (r : Record s.Carrier) (given : List String) :
    List (Except Break String × Draft) → s.Carrier → Except TextFault (List String × s.Carrier)
  | [], x => .ok (given, x)
  | (.error _, _) :: _, _ => .error .malformed
  | (.ok key, d) :: es, x =>
    match r.field? key with
    | none => do
      unbroken d.stop?
      readDraftEntries s r given es x
    | some f =>
      if key ∈ given then .error (.mismatch (.repeated key))
      else if f.skipsDraft d then readDraftEntries s r (key :: given) es x
      else do
        let y ← f.schema.readDraft d
        readDraftEntries s r (key :: given) es (f.put y x)
  termination_by structural es => es
end

/-- Reads a text as a form, with nothing behind the value. -/
def Schema.readText (s : Schema) (text : String) : Except TextFault s.Carrier := do
  let (d, tail) := Draft.ofText levels text.toList
  let x ← s.readDraft d
  unbroken tail
  .ok x

end Gazette.Wire
