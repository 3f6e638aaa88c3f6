import Allotment.Json.Decode

/-!
# Records

A record format lists the fields of a structure once, for reading and for writing. A record is written as an object;
it is read from an object, in any order and with unknown members passed over, or from an array in the order of the
fields. Every field but a required one may be missing.
-/

namespace Allotment.Json

/-- One field of a structure `σ`: reading gives the change that puts the value in place. -/
structure Field (σ : Type) where
  name : String
  required : Bool
  read : Decoder (σ → σ)
  write : σ → Json

/-- The field with the given decoder and writer that is put in place by `set`. -/
def Field.of (name : String) (decoder : Decoder α) (write : α → Json) (get : σ → α) (set : α → σ → σ) : Field σ where
  name
  required := false
  read depth document := (decoder depth document).map set
  write s := write (get s)

/-- The same field, which may not be missing. -/
def Field.mandatory (field : Field σ) : Field σ := { field with required := true }

/-- A structure as a record; `initial` holds what missing fields have. -/
structure RecordFormat (σ : Type) where
  name : String
  initial : σ
  fields : List (Field σ)

namespace RecordFormat

/-- The record as an object. -/
def write (format : RecordFormat σ) (s : σ) : Json :=
  .object (format.fields.map fun field => (field.name, field.write s))

/-- Reads the members of an object one after the other; `met` are the fields already read. -/
def readMembers (fields : List (Field σ)) (depth : Depth) (s : σ) (met : List String) :
    List (Document × Document) → Except Fault (σ × List String)
  | [] => .ok (s, met)
  | (name, document) :: members => do
    let name ← Decoder.memberName name
    match fields.find? (·.name == name) with
    | none =>
      Decoder.ignore depth document
      readMembers fields depth s met members
    | some field =>
      if met.contains name then throw (.duplicateField name)
      let change ← field.read depth document
      readMembers fields depth (change s) (name :: met) members

/-- Reads the items of an array into the fields in order; `index` fields have been read. -/
def readItems (expected : String) (depth : Depth) (s : σ) (index : Nat) :
    List (Field σ) → List Document → Except Fault σ
  | [], [] => .ok s
  | [], _ :: _ => .error .malformed
  | field :: fields, [] =>
    if field.required then .error (.wrongLength index expected)
    else readItems expected depth s (index + 1) fields []
  | field :: fields, item :: items => do
    let change ← field.read depth item
    readItems expected depth (change s) (index + 1) fields items

/-- How the format is called when something else was found. -/
def expected (format : RecordFormat σ) : String := "struct " ++ format.name

/-- How the format is called when an array is too short. -/
def expectedLength (format : RecordFormat σ) : String :=
  format.expected ++ " with " ++ toString format.fields.length ++ " elements"

/-- Reads a record. -/
def decoder (format : RecordFormat σ) : Decoder σ
  | depth, .object members =>
    Decoder.enter depth fun depth => do
      let (s, met) ← readMembers format.fields depth format.initial [] members
      match format.fields.find? fun field => field.required && !met.contains field.name with
      | some field => throw (.missingField field.name)
      | none => return s
  | depth, .array items =>
    Decoder.enter depth fun depth => readItems format.expectedLength depth format.initial 0 format.fields items
  | _, document => .error (wrongType format.expected document)

end RecordFormat

end Allotment.Json
