import Allotment.Json.Token

/-!
# What a JSON text says, up to where it goes wrong

`Document.read` never fails. Where the text stops being JSON the document holds a `fault`, and all that comes before
the fault is there in order, so that whoever looks for something in the document meets what is wrong with it in the
order of the text.
-/

namespace Allotment.Json

/-- A value as read; names of members are documents too, because anything may stand where a name should. -/
inductive Document where
  | fault
  | null
  | bool (value : Bool)
  | number (numeral : Numeral)
  | string (pieces : List Piece)
  | array (items : List Document)
  | object (members : List (Document × Document))

namespace Document

/-- Whether the document is a string. -/
def isString : Document → Bool
  | .string _ => true
  | _ => false

mutual

/-- The value at the front of the tokens, and the tokens after it. -/
def readValue : Nat → List Token → Document × List Token
  | 0, _ => (.fault, [])
  | _, [] => (.fault, [])
  | fuel + 1, token :: rest =>
    match token with
    | .null => (.null, rest)
    | .bool value => (.bool value, rest)
    | .number numeral => (.number numeral, rest)
    | .string pieces => (.string pieces, rest)
    | .openBracket =>
      match rest with
      | .closeBracket :: rest => (.array [], rest)
      | rest =>
        let (items, rest) := readItems fuel rest
        (.array items, rest)
    | .openBrace =>
      match rest with
      | .closeBrace :: rest => (.object [], rest)
      | rest =>
        let (members, rest) := readMembers fuel rest
        (.object members, rest)
    | _ => (.fault, [])

/-- The items of an array from the next one on, up to the closing bracket. -/
def readItems : Nat → List Token → List Document × List Token
  | 0, _ => ([.fault], [])
  | fuel + 1, ts =>
    let (item, rest) := readValue fuel ts
    match rest with
    | .closeBracket :: rest => ([item], rest)
    | .comma :: rest =>
      let (items, rest) := readItems fuel rest
      (item :: items, rest)
    | _ => ([item, .fault], [])

/-- The members of an object from the next one on, up to the closing brace. -/
def readMembers : Nat → List Token → List (Document × Document) × List Token
  | 0, _ => ([(.fault, .fault)], [])
  | fuel + 1, ts =>
    match readValue fuel ts with
    | (name, .colon :: rest) =>
      let (value, rest) := readValue fuel rest
      match rest with
      | .closeBrace :: rest => ([(name, value)], rest)
      | .comma :: rest =>
        let (members, rest) := readMembers fuel rest
        ((name, value) :: members, rest)
      | _ => ([(name, value), (.fault, .fault)], [])
    | (name, _) => ([(name, .fault)], [])

end

mutual

/-- Whether no fault stands anywhere in the document. -/
def sound : Document → Bool
  | .fault => false
  | .array items => soundItems items
  | .object members => soundMembers members
  | _ => true

/-- Whether no fault stands in the items of an array. -/
def soundItems : List Document → Bool
  | [] => true
  | item :: items => item.sound && soundItems items

/-- Whether no fault stands in the members of an object, whose names are strings. -/
def soundMembers : List (Document × Document) → Bool
  | [] => true
  | (name, value) :: members => name.isString && value.sound && soundMembers members

end

end Document

/-- What a whole text says: its value, and whether nothing follows it. -/
structure Reading where
  document : Document
  complete : Bool

/-- The reading of a text. -/
def read (text : String) : Reading :=
  let ts := tokens text.toList
  let (document, rest) := Document.readValue (2 * ts.length + 2) ts
  ⟨document, rest.isEmpty⟩

end Allotment.Json
