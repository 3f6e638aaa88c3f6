import Allotment.Domain.Direction
import Allotment.Domain.Joining
import Allotment.Domain.Mapping
import Allotment.Domain.Punycode
import Allotment.Text.Composition

/-!
# Names of hosts

A name is made of labels between dots. `ascii?` brings it into the one form that is looked up: its characters are
replaced by those they stand for and composed, labels in ASCII form are read and must be the form of a label that
needs it, and every label is checked before it is written in ASCII.
-/

namespace Allotment.Domain

/-- Whether a character may not stand in a name, because it has a meaning in an address or cannot be seen. -/
def isForbidden (c : Char) : Bool :=
  c.toNat ≤ 0x20 || c.toNat = 0x7f ||
    ['#', '%', '/', ':', '<', '>', '?', '@', '[', '\\', ']', '^', '|'].contains c

/-- Whether a character is in ASCII. -/
def isAscii (c : Char) : Bool := c.toNat < 0x80

/-- Labels between dots. -/
def labels (name : List Char) : List (List Char) :=
  let (first, others) := Text.splitChars '.' name
  first :: others

/-- The label that stands in a name, of which the form in ASCII starts with `xn--`. -/
def readLabel? : List Char → Option (List Char)
  | 'x' :: 'n' :: '-' :: '-' :: form => do
    if form.isEmpty || form.getLast? = some '-' || 2000 < form.length || !form.all isAscii then none
    else
      let label ← Punycode.decode? form
      if label.all isPlain && Text.composed label = label then some label else none
  | label => some label

/-- Whether a label may be in a name: no character of it is forbidden, no mark starts it, joiners are where they make
a difference, and it is not too long. -/
def isLabel (label : List Char) : Bool :=
  !label.any isForbidden && !label.head?.any Text.isMark && isJoined label &&
    (label.all isAscii || label.length ≤ 1000)

/-- A label in ASCII. -/
def writeLabel (label : List Char) : List Char :=
  if label.all isAscii then label else 'x' :: 'n' :: '-' :: '-' :: Punycode.encode label

/-- The labels of a name, if they may be in one. -/
def readLabels? (name : List Char) : Option (List (List Char)) := do
  let labels ← (labels (Text.composed (← mapChars? name))).mapM readLabel?
  let isBoth := labels.any (·.any Direction.isRightward)
  if labels.all isLabel && (!isBoth || labels.all isDirected) then some labels else none

/-- A name in ASCII, if it is one. -/
def ascii? (name : List Char) : Option (List Char) :=
  (readLabels? name).map fun labels => ['.'].intercalate (labels.map writeLabel)

end Allotment.Domain
