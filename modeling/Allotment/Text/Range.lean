/-!
# Ranges of characters

A class of characters is a list of ranges of their numbers.
-/

namespace Allotment.Text

/-- Whether a character is in one of the ranges, ends included. -/
def within (ranges : List (Nat × Nat)) (c : Char) : Bool :=
  ranges.any fun range => range.1 ≤ c.toNat && c.toNat ≤ range.2

end Allotment.Text
