import Allotment.Text.Lines

/-!
# Paths

A path is a text whose slashes part it into pieces. Joining an absolute path onto another replaces it; the parent of a
path is the path without its last piece and without the slashes and steps in place around that piece.
-/

namespace Allotment

/-- The path of a file or directory. -/
structure Path where
  text : String
  deriving DecidableEq, Inhabited

namespace Path

/-- Whether the path starts at the root. -/
def isAbsolute (p : Path) : Bool :=
  p.text.toList.head? == some '/'

/-- Whether a slash ends the path. -/
def endsInSlash (p : Path) : Bool :=
  p.text.toList.getLast? == some '/'

/-- Whether a zero character stands in the path, which no file name may hold. -/
def holdsZero (p : Path) : Bool :=
  p.text.toList.contains '\x00'

/-- The pieces between slashes, without the empty ones. -/
def pieces (p : Path) : List String :=
  let (first, others) := Text.splitChars '/' p.text.toList
  ((first :: others).filter (!·.isEmpty)).map String.ofList

/-- A path relative to another one. -/
def join (base p : Path) : Path :=
  if p.isAbsolute then p
  else if base.text.isEmpty || base.endsInSlash then ⟨base.text ++ p.text⟩
  else ⟨base.text ++ "/" ++ p.text⟩

/-! ## Directories above a path -/

/-- The start of a path that belongs to no piece, which is the root or a step in place, and what follows it. -/
def splitStart : List Char → List Char × List Char
  | '/' :: rest => (['/'], rest)
  | '.' :: '/' :: rest => (['.'], '/' :: rest)
  | ['.'] => (['.'], [])
  | cs => ([], cs)

/-- Whether a piece leads nowhere else: two slashes in a row, a slash at the end or a step in place. -/
def isIdle (piece : List Char) : Bool :=
  piece = [] || piece = ['.']

/-- Pieces without the idle ones at their end. -/
def dropIdleEnd (pieces : List (List Char)) : List (List Char) :=
  (pieces.reverse.dropWhile isIdle).reverse

/-- The directory that a path is in, written as in the path itself; the root and the empty path are in none. -/
def parent? (p : Path) : Option Path :=
  let (start, body) := splitStart p.text.toList
  let (first, others) := Text.splitChars '/' body
  match dropIdleEnd (first :: others) with
  | [] => if start = ['.'] then some ⟨""⟩ else none
  | pieces => some ⟨String.ofList (start ++ ['/'].intercalate (dropIdleEnd pieces.dropLast))⟩

/-- The path and at most `count` directories above it, longest first, without the root and the empty path. -/
def ancestorsUpTo : Nat → Path → List Path
  | 0, _ => []
  | count + 1, p =>
    match p.parent? with
    | none => []
    | some parent => p :: ancestorsUpTo count parent

/-- The path and the directories above it, longest first, without the root and the empty path. -/
def ancestors (p : Path) : List Path :=
  ancestorsUpTo (p.text.length + 1) p

end Path

end Allotment
