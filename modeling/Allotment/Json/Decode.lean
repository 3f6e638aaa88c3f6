import Allotment.Json.Document
import Allotment.Text.Quoted

/-!
# Taking values out of a document

A decoder reads the document in the order of the text and stops at the first thing that does not suit it. Containers
may be nested in one another up to a limit, counted in `Depth`; what is passed over unread has no limit. A value may
also be given by a text that says it, held by an object under a reserved name.
-/

namespace Allotment.Json

/-- What stands where something else was looked for. -/
inductive Found where
  | null
  | bool (value : Bool)
  | integer (value : Int)
  | real (value : Binary64)
  | string (value : String)
  | sequence
  | map
  | unitVariant

/-- The wording for what was found. -/
def Found.text : Found → String
  | .null => "null"
  | .bool true => "boolean `true`"
  | .bool false => "boolean `false`"
  | .integer value => "integer `" ++ String.ofList (Number.integer value).chars ++ "`"
  | .real value => "floating point `" ++ String.ofList value.chars ++ "`"
  | .string value => "string " ++ Text.quoted value
  | .sequence => "sequence"
  | .map => "map"
  | .unitVariant => "unit variant"

/-- Why a value cannot be taken out of a document. -/
inductive Fault where
  | malformed
  | wrongType (found : Found) (expected : String)
  | wrongValue (found : Found) (expected : String)
  | wrongLength (length : Nat) (expected : String)
  | missingField (name : String)
  | duplicateField (name : String)
  | unknownVariant (name : String) (expected : String)
  | unsuitable (reason : String)

/-- The wording of a fault. -/
def Fault.message : Fault → String
  | .malformed => "invalid JSON"
  | .wrongType found expected => "invalid type: " ++ found.text ++ ", expected " ++ expected
  | .wrongValue found expected => "invalid value: " ++ found.text ++ ", expected " ++ expected
  | .wrongLength length expected => "invalid length " ++ toString length ++ ", expected " ++ expected
  | .missingField name => "missing field `" ++ name ++ "`"
  | .duplicateField name => "duplicate field `" ++ name ++ "`"
  | .unknownVariant name expected => "unknown variant `" ++ name ++ "`, expected " ++ expected
  | .unsuitable reason => reason

/-- How many containers may still be opened, plus one. -/
abbrev Depth := Nat

/-- The depth at the outside of a text: 127 containers may be nested. -/
def Depth.outermost : Depth := 128

/-- Takes a value out of a document. -/
abbrev Decoder (α : Type) := Depth → Document → Except Fault α

/-- The number that a numeral denotes; one that is too large is malformed. -/
def Numeral.decode (n : Numeral) : Except Fault Number :=
  match n.toNumber? with
  | some n => .ok n
  | none => .error .malformed

/-- The text that pieces denote; half a character alone is malformed. -/
def decodePieces (pieces : List Piece) : Except Fault String :=
  match joinPieces? pieces with
  | some cs => .ok (String.ofList cs)
  | none => .error .malformed

/-- What a number is found to be. -/
def Number.found : Number → Found
  | .integer value => .integer value
  | .real value => .real value

/-- The fault of a document that is not what was expected. -/
def wrongType (expected : String) : Document → Fault
  | .fault => .malformed
  | .null => .wrongType .null expected
  | .bool value => .wrongType (.bool value) expected
  | .number numeral =>
    match numeral.decode with
    | .ok n => .wrongType n.found expected
    | .error fault => fault
  | .string pieces =>
    match decodePieces pieces with
    | .ok text => .wrongType (.string text) expected
    | .error fault => fault
  | .array _ => .wrongType .sequence expected
  | .object _ => .wrongType .map expected

namespace Decoder

/-- Opens a container and goes on inside it. -/
def enter (depth : Depth) (inside : Depth → Except Fault α) : Except Fault α :=
  if depth ≤ 1 then .error .malformed else inside (depth - 1)

/-- A string. -/
def string : Decoder String
  | _, .string pieces => decodePieces pieces
  | _, document => .error (wrongType "a string" document)

/-- A truth value. -/
def bool : Decoder Bool
  | _, .bool value => .ok value
  | _, document => .error (wrongType "a boolean" document)

/-- An unsigned 64-bit number. -/
def uint64 : Decoder UInt64
  | _, .number numeral =>
    match numeral.decode with
    | .error fault => .error fault
    | .ok n =>
      match n.toUInt64? with
      | some value => .ok value
      | none =>
        match n with
        | .integer value => .error (.wrongValue (.integer value) "u64")
        | .real value => .error (.wrongType (.real value) "u64")
  | _, document => .error (wrongType "u64" document)

/-- A natural number below a bound, written as a plain numeral; anything else is malformed. -/
def plainNat (bound : Nat) : Decoder (Fin bound)
  | _, .number numeral =>
    if h : numeral.isPlain ∧ numeral.negative = false ∧ numeral.whole < bound then .ok ⟨numeral.whole, h.2.2⟩
    else .error .malformed
  | _, _ => .error .malformed

/-- A value or null. -/
def option (decoder : Decoder α) : Decoder (Option α)
  | _, .null => .ok none
  | depth, document => (decoder depth document).map some

/-- The items of an array, one after the other. -/
def list (decoder : Decoder α) : Decoder (List α)
  | depth, .array items => enter depth fun depth => items.mapM (decoder depth)
  | _, document => .error (wrongType "a sequence" document)

/-- Anything at all, as long as it is JSON. -/
def ignore : Decoder Unit
  | _, document => if document.sound then .ok () else .error .malformed

/-- The name of a member. -/
def memberName : Document → Except Fault String
  | .string pieces => decodePieces pieces
  | _ => .error .malformed

/-- The name of the member that makes an object stand for what a text says, when it is the first one. -/
def embeddedName : String := "$serde_json::private::RawValue"

/-- The text that such a member holds. -/
def embeddedText : Document → Except Fault String
  | .string pieces => decodePieces pieces
  | document => .error (wrongType "raw value" document)

mutual

/-- Any value, where `embedded` tells what a text says. -/
def valueWith (embedded : String → Except Fault Json) (depth : Depth) : Document → Except Fault Json
  | .fault => .error .malformed
  | .null => .ok .null
  | .bool value => .ok (.bool value)
  | .number numeral => numeral.decode.map .number
  | .string pieces => (decodePieces pieces).map .string
  | .array items => if depth ≤ 1 then .error .malformed else (itemsWith embedded (depth - 1) items).map .array
  | .object members => if depth ≤ 1 then .error .malformed else objectWith embedded (depth - 1) members

/-- Any items of an array. -/
def itemsWith (embedded : String → Except Fault Json) (depth : Depth) : List Document → Except Fault (List Json)
  | [] => .ok []
  | item :: items => do
    let first ← valueWith embedded depth item
    let others ← itemsWith embedded depth items
    return first :: others

/-- An object of any members, or what a text says if the first member holds one; no other may follow it then. -/
def objectWith (embedded : String → Except Fault Json) (depth : Depth) :
    List (Document × Document) → Except Fault Json
  | [] => .ok (.object [])
  | (name, document) :: members => do
    let name ← memberName name
    if name = embeddedName then
      let value ← embedded (← embeddedText document)
      if members.isEmpty then return value else throw .malformed
    else
      let first ← valueWith embedded depth document
      (membersWith embedded depth [(name, first)] members).map .object

/-- Any members of an object, added to those already met; a repeated name keeps its place and takes the new value. -/
def membersWith (embedded : String → Except Fault Json) (depth : Depth) (met : List (String × Json)) :
    List (Document × Document) → Except Fault (List (String × Json))
  | [] => .ok met
  | (name, document) :: members => do
    let name ← memberName name
    let member ← valueWith embedded depth document
    membersWith embedded depth (insertMember name member met) members

end

end Decoder

/-- Takes a value out of a text, which must hold nothing else. -/
def decodeText (decoder : Decoder α) (text : String) : Except Fault α :=
  let reading := read text
  match decoder Depth.outermost reading.document with
  | .error fault => .error fault
  | .ok value => if reading.complete then .ok value else .error .malformed

namespace Decoder

/-- What a text says, at most `limit` texts being held in one another. -/
def valueOfText : Nat → String → Except Fault Json
  | 0, _ => .error .malformed
  | limit + 1, text => decodeText (valueWith (valueOfText limit)) text

/-- What a text says; a text that it holds is shorter, so that its length is limit enough. -/
def embeddedValue (text : String) : Except Fault Json :=
  valueOfText text.length text

/-- Any value. -/
def value : Decoder Json :=
  valueWith embeddedValue

/-- The members of an object, with any values. -/
def object : Decoder (List (String × Json))
  | depth, .object members => enter depth fun depth => membersWith embeddedValue depth [] members
  | _, document => .error (wrongType "a map" document)

end Decoder

end Allotment.Json
