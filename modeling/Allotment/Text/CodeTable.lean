import Allotment.Bytes.Hex
import Allotment.Text.Lines
import Allotment.Text.Range

/-!
# Tables of characters

Properties of characters are written as text, in hexadecimal numbers between blanks. In a table of ranges `300-36f`
stands for all characters from the first to the last. A table of images tells what characters become: `41-5a=61`
shifts a whole range, `100-12e/2=101` every second character of one, and `df=73+73,e0` gives the images of
characters in a row, each of one character or several.
-/

namespace Allotment.Text

/-- The words between blanks and line ends, `pending` being the part of a word already read, last character first. -/
def wordsFrom (pending : List Char) : List Char → List (List Char)
  | [] => if pending.isEmpty then [] else [pending.reverse]
  | c :: rest =>
    if c = ' ' || c = '\n' then
      if pending.isEmpty then wordsFrom [] rest else pending.reverse :: wordsFrom [] rest
    else wordsFrom (c :: pending) rest

/-- The words of a table. -/
def words (table : String) : List (List Char) :=
  wordsFrom [] table.toList

/-- The number that hexadecimal digits denote. -/
def codeOf (digits : List Char) : Nat :=
  digits.foldl (fun n c => 16 * n + (Hex.value? c).getD 0) 0

/-- The range that a word stands for. -/
def readRange (word : List Char) : Nat × Nat :=
  match splitChars '-' word with
  | (first, last :: _) => (codeOf first, codeOf last)
  | (code, []) => (codeOf code, codeOf code)

/-- The ranges of a table. -/
def rangesOf (table : String) : List (Nat × Nat) :=
  (words table).map readRange

/-- The images of successive characters. -/
def readImages (images : List Char) : List (List Nat) :=
  let (first, others) := splitChars ',' images
  (first :: others).map fun image =>
    let (code, codes) := splitChars '+' image
    (code :: codes).map codeOf

/-- The characters of a row, given before the equals sign, with their images. -/
def readRow (word : List Char) : List (Nat × List Nat) :=
  let (source, images) := splitChars '=' word
  let images := images.flatMap readImages
  let (range, step) := splitChars '/' source
  let step := (step.map codeOf).headD 1
  match splitChars '-' range with
  | (first, []) => images.mapIdx fun n image => (codeOf first + n, image)
  | (first, last :: _) =>
    (List.range ((codeOf last - codeOf first) / step + 1)).map fun n =>
      (codeOf first + step * n, (images.headD []).map (· + step * n))

/-- The characters of a table with their images. -/
def imagesOf (table : String) : List (Nat × List Nat) :=
  (words table).flatMap readRow

end Allotment.Text
