import Allotment.Address
import Allotment.Files.Basic
import Allotment.Text.Decimal

/-!
# Points tables

A table lists accounts with their points in the order of its source. Entries are not merged: of several entries for
one account the first one counts. A table comes from pairs, from a JSON object or from lines of comma-separated text;
all three leave out entries whose account is blank.
-/

namespace Allotment.Points

/-- What is wrong with a line of comma-separated text. -/
inductive LineFault where
  | tooFewColumns
  | tooManyColumns
  deriving DecidableEq

/-- The wording of a line fault. -/
def LineFault.message : LineFault → String
  | .tooFewColumns => "expected `address,points`"
  | .tooManyColumns => "too many columns"

/-- Why there is no table; each error names the table it is about. -/
inductive Error where
  | invalidAccount (table account : String)
  | invalidPoints (table account value : String)
  | malformedLine (table : String) (line : Nat) (fault : LineFault)
  | unreadable (path : Path) (cause : FileError)
  deriving DecidableEq

/-- The wording of an error. -/
def Error.message : Error → String
  | .invalidAccount table account => table ++ ": invalid account " ++ Text.quoted account
  | .invalidPoints table account value =>
    table ++ ": points for " ++ account ++ " must be a non-negative integer, got " ++ value
  | .malformedLine table line fault => table ++ ":" ++ toString line ++ ": " ++ fault.message
  | .unreadable path cause => "failed to read " ++ path.text ++ ": " ++ cause.message

/-- One entry of a table. -/
structure Entry where
  account : Address
  points : UInt64
  deriving DecidableEq

/-- A points table. -/
structure Table where
  name : String
  entries : List Entry
  deriving DecidableEq

namespace Table

/-- A table without entries. -/
def empty (name : String) : Table := ⟨name, []⟩

/-- The entry for an account as it was written; none if the account is blank. -/
def readEntry (name raw : String) (points : UInt64) : Except Error (Option Entry) :=
  if Text.isBlankText raw then .ok none
  else match Address.parse? raw with
    | some account => .ok (some ⟨account, points⟩)
    | none => .error (.invalidAccount name raw)

/-- The table of entries read one after the other. -/
def collect (name : String) (read : α → Except Error (Option Entry)) (sources : List α) : Except Error Table := do
  return ⟨name, (← sources.mapM read).filterMap id⟩

/-- The table of the given pairs. -/
def ofPairs (name : String) (pairs : List (String × UInt64)) : Except Error Table :=
  collect name (fun (raw, points) => readEntry name raw points) pairs

/-- The entry of a JSON member, whose value must be a plain non-negative integer of at most 64 bits. -/
def readMember (name : String) (member : String × Json) : Except Error (Option Entry) :=
  match member.2.toUInt64? with
  | some points => readEntry name member.1 points
  | none => .error (.invalidPoints name member.1 member.2.compact)

/-- The table of the members of a JSON object. -/
def ofJson (name : String) (members : List (String × Json)) : Except Error Table :=
  collect name (readMember name) members

/-! ## Comma-separated text -/

/-- A line that says something: its number, counted from one, and its characters without white space at the ends. -/
structure Line where
  number : Nat
  chars : List Char

/-- The lines that are neither blank nor comments. -/
def significantLines (text : String) : List Line :=
  ((Text.lineChars text.toList).mapIdx fun index cs => ⟨index + 1, Text.trimChars cs⟩).filter fun line =>
    !line.chars.isEmpty && line.chars.head? != some '#'

/-- The two columns of a line. -/
def columns (name : String) (line : Line) : Except Error (String × String) :=
  match Text.splitChars ',' line.chars with
  | (_, []) => .error (.malformedLine name line.number .tooFewColumns)
  | (first, [second]) => .ok (String.ofList (Text.trimChars first), String.ofList (Text.trimChars second))
  | (_, _ :: _ :: _) => .error (.malformedLine name line.number .tooManyColumns)

/-- Whether a first column is that of the header line. -/
def isHeader (column : String) : Bool :=
  column.toList.map Char.toLower == "address".toList

/-- The entry of two columns. -/
def readColumns (name : String) : String × String → Except Error (Option Entry)
  | (account, value) =>
    match Text.readUInt64? value with
    | some points => readEntry name account points
    | none => .error (.invalidPoints name account value)

/-- The entry of a line. -/
def readLine (name : String) (line : Line) : Except Error (Option Entry) := do
  readColumns name (← columns name line)

/-- The entry of the first line, which may be a header instead. -/
def readFirstLine (name : String) (line : Line) : Except Error (Option Entry) := do
  let (account, value) ← columns name line
  if isHeader account then return none else readColumns name (account, value)

/-- The table of a text with one account and its points a line. -/
def ofCsv (name text : String) : Except Error Table := do
  match significantLines text with
  | [] => return empty name
  | first :: others =>
    let entry ← readFirstLine name first
    let entries ← others.mapM (readLine name)
    return ⟨name, (entry :: entries).filterMap id⟩

/-- The table in a file of comma-separated text, named for its path. -/
def loadCsv [Monad m] (files : Files m) (path : Path) : m (Except Error Table) := do
  match ← files.readText path with
  | .ok text => return ofCsv path.text text
  | .error cause => return .error (.unreadable path cause)

/-! ## Looking things up -/

/-- The table with the entries of another one after its own. -/
def append (table other : Table) : Table :=
  { table with entries := table.entries ++ other.entries }

/-- The points of the first entry for an account. -/
def get? (table : Table) (account : Address) : Option UInt64 :=
  (table.entries.find? (·.account = account)).map (·.points)

/-- The points that count for an account, none for one that is not in the table. -/
def points (table : Table) (account : Address) : UInt64 :=
  (table.get? account).getD 0

/-- The accounts in order, repeated ones included. -/
def accounts (table : Table) : List Address :=
  table.entries.map (·.account)

end Table

/-- How many nodes are bound to each account; accounts not listed have none. -/
structure BoundCounts where
  entries : List (Address × UInt64)

namespace BoundCounts

/-- No counts. -/
def empty : BoundCounts := ⟨[]⟩

/-- The count of an account. -/
def get (bounds : BoundCounts) (account : Address) : UInt64 :=
  (bounds.entries.lookup account).getD 0

/-- The counts with a count for an account, which takes the place of an earlier one. -/
def insert (bounds : BoundCounts) (account : Address) (count : UInt64) : BoundCounts :=
  ⟨(account, count) :: bounds.entries.filter (·.1 != account)⟩

/-- How many accounts have a count. -/
def size (bounds : BoundCounts) : Nat := bounds.entries.length

end BoundCounts

end Allotment.Points
