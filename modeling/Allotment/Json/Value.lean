import Allotment.Json.Shortest

/-!
# JSON values

A number is an integer or a floating-point number, and an object is a list of members in order. `Json.chars` writes a
value, either without any white space or with one item a line and two blanks for each level.
-/

namespace Allotment

/-- A JSON number. -/
inductive Json.Number where
  | integer (value : Int)
  | real (value : Json.Binary64)
  deriving DecidableEq, Repr

/-- A JSON value; the members of an object keep their order. -/
inductive Json where
  | null
  | bool (value : Bool)
  | number (value : Json.Number)
  | string (value : String)
  | array (items : List Json)
  | object (members : List (String × Json))

namespace Json

/-- The non-negative integer that fits into 64 bits, if the number is one. -/
def Number.toUInt64? : Number → Option UInt64
  | .integer value =>
    if h : 0 ≤ value ∧ value.toNat < UInt64.size then some (UInt64.ofNatLT value.toNat h.2) else none
  | .real _ => none

/-- The number of a value that is a non-negative integer of at most 64 bits. -/
def toUInt64? : Json → Option UInt64
  | .number value => value.toUInt64?
  | _ => none

/-- The value of an unsigned number. -/
def ofNat (n : Nat) : Json := .number (.integer n)

/-- The value of an unsigned 64-bit number. -/
def ofUInt64 (n : UInt64) : Json := ofNat n.toNat

/-- A value, or null for none. -/
def ofOption (write : α → Json) : Option α → Json
  | some a => write a
  | none => .null

/-- The members with a member added; one of the same name keeps its place and takes the new value. -/
def insertMember (name : String) (value : Json) : List (String × Json) → List (String × Json)
  | [] => [(name, value)]
  | (name', value') :: rest =>
    if name' = name then (name', value) :: rest else (name', value') :: insertMember name value rest

/-! ## Writing -/

/-- The text of a number. -/
def Number.chars : Number → List Char
  | .integer value => (if value < 0 then ['-'] else []) ++ Nat.toDigits 10 value.natAbs
  | .real value => value.chars

/-- How a character is written in a string: the quote, the backslash and the control characters are escaped. -/
def escapeChar (c : Char) : List Char :=
  if c = '"' then ['\\', '"']
  else if c = '\\' then ['\\', '\\']
  else if c = '\x08' then ['\\', 'b']
  else if c = '\x0c' then ['\\', 'f']
  else if c = '\n' then ['\\', 'n']
  else if c = '\r' then ['\\', 'r']
  else if c = '\t' then ['\\', 't']
  else if c.toNat < 0x20 then
    ['\\', 'u', '0', '0', Nat.digitChar (c.toNat / 16), Nat.digitChar (c.toNat % 16)]
  else [c]

/-- The text of a string. -/
def stringChars (s : String) : List Char :=
  '"' :: s.toList.flatMap escapeChar ++ ['"']

/-- How a value is laid out: all on one line without white space, or one item a line. -/
inductive Layout where
  | compact
  | pretty
  deriving DecidableEq, Repr

namespace Layout

/-- What stands before an item at the given depth. -/
def lineBreak (layout : Layout) (depth : Nat) : List Char :=
  match layout with
  | .compact => []
  | .pretty => '\n' :: List.replicate (2 * depth) ' '

/-- What stands between a name and its value. -/
def colon : Layout → List Char
  | .compact => [':']
  | .pretty => [':', ' ']

end Layout

mutual

/-- The text of a value that stands at the given depth. -/
def charsAt (layout : Layout) (depth : Nat) : Json → List Char
  | .null => ['n', 'u', 'l', 'l']
  | .bool true => ['t', 'r', 'u', 'e']
  | .bool false => ['f', 'a', 'l', 's', 'e']
  | .number value => value.chars
  | .string value => stringChars value
  | .array [] => ['[', ']']
  | .array (item :: items) =>
    '[' :: layout.lineBreak (depth + 1) ++ charsAt layout (depth + 1) item ++
      itemsChars layout (depth + 1) items ++ layout.lineBreak depth ++ [']']
  | .object [] => ['\x7b', '\x7d']
  | .object ((name, value) :: members) =>
    '\x7b' :: layout.lineBreak (depth + 1) ++ stringChars name ++ layout.colon ++
      charsAt layout (depth + 1) value ++ membersChars layout (depth + 1) members ++
      layout.lineBreak depth ++ ['\x7d']

/-- The text of the items after the first one. -/
def itemsChars (layout : Layout) (depth : Nat) : List Json → List Char
  | [] => []
  | item :: items => ',' :: layout.lineBreak depth ++ charsAt layout depth item ++ itemsChars layout depth items

/-- The text of the members after the first one. -/
def membersChars (layout : Layout) (depth : Nat) : List (String × Json) → List Char
  | [] => []
  | (name, value) :: members =>
    ',' :: layout.lineBreak depth ++ stringChars name ++ layout.colon ++ charsAt layout depth value ++
      membersChars layout depth members

end

/-- The text of a value. -/
def render (layout : Layout) (value : Json) : String :=
  String.ofList (value.charsAt layout 0)

/-- The text of a value without white space. -/
def compact (value : Json) : String := value.render .compact

/-- The text of a value with one item a line. -/
def pretty (value : Json) : String := value.render .pretty

end Json

end Allotment
