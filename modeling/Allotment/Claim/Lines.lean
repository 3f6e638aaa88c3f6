import Allotment.Text.Blank
import Allotment.Text.Lines

/-!
# Account lists

An account list is a text with one account a line. Blank lines and comments are passed over; what the other lines say
is looked at only when claims are made.
-/

namespace Allotment.Claim

/-- Whether a line, without white space at its ends, names an account. -/
def namesAccount (line : List Char) : Bool :=
  !line.isEmpty && line.head? != some '#'

/-- The lines of an account list, without white space at their ends. -/
def accountLines (text : String) : List String :=
  (((Text.lineChars text.toList).map Text.trimChars).filter namesAccount).map String.ofList

end Allotment.Claim
