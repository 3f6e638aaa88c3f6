/-!
# Labels in ASCII

A label with other characters has a form in ASCII alone: the ASCII characters come first, and the others follow as
numbers that say where each is put in. The characters are put in from the lowest to the highest, and equal ones from
left to right; a number counts the places passed since the one before.
-/

namespace Allotment.Punycode

/-! ## Numbers -/

/-- The characters of the digits: letters come before numerals. -/
def digitChars : List Char := "abcdefghijklmnopqrstuvwxyz0123456789".toList

/-- The character of a digit. -/
def digitChar (digit : Nat) : Char :=
  digitChars.getD digit '9'

/-- The digit of a character of either case. -/
def digitValue? (c : Char) : Option Nat :=
  digitChars.idxOf? c.toLower

/-- How many digits end a number at a place; `place` grows by 36 from digit to digit. -/
def threshold (bias place : Nat) : Nat :=
  min 26 (max 1 (place - bias))

theorem threshold_pos (bias place : Nat) : 0 < threshold bias place := by
  unfold threshold
  omega

/-- The bias for numbers of a size: 36 for each time that the size is divided by 35 until it is small, and a share of
36 that grows with what is left. -/
def biasFor (size : Nat) : Nat :=
  if 455 < size then 36 + biasFor (size / 35) else 36 * size / (size + 38)
termination_by size
decreasing_by omega

/-- The bias for the number after `number`, which put in a character to make `length` of them; the first number is
often far larger than those after it. -/
def nextBias (number length : Nat) (isFirst : Bool) : Nat :=
  let share := if isFirst then number / 700 else number / 2
  biasFor (share + share / length)

/-- The digits of a number from a place on, lowest first. -/
def numberChars (bias place number : Nat) : List Char :=
  let limit := threshold bias place
  if number < limit then [digitChar number]
  else
    let rest := number - limit
    digitChar (limit + rest % (36 - limit)) :: numberChars bias (place + 36) (rest / (36 - limit))
termination_by number
decreasing_by
  have := threshold_pos bias place
  exact Nat.lt_of_le_of_lt (Nat.div_le_self _ _) (by omega)

/-- The number at the front of a text, added to `sum`, and the text after it; it must fit into 32 bits. -/
def readNumber? (bias place weight sum : Nat) : List Char → Option (Nat × List Char)
  | [] => none
  | c :: rest => do
    let digit ← digitValue? c
    let sum := sum + digit * weight
    let limit := threshold bias place
    if UInt32.size ≤ sum then none
    else if digit < limit then some (sum, rest)
    else if UInt32.size ≤ weight * (36 - limit) then none
    else readNumber? bias (place + 36) (weight * (36 - limit)) sum rest

/-! ## Reading -/

/-- The characters put in so far, and where the last one was put in. -/
structure State where
  chars : List Char
  /-- The character that is put in where nothing is passed. -/
  code : Nat
  /-- The place where it is put in. -/
  place : Nat
  bias : Nat

/-- Before anything is put into the ASCII characters of a label. -/
def State.start (ascii : List Char) : State := ⟨ascii, 0x80, 0, 72⟩

/-- Puts in the character that a number, counted from the current place, leads to. -/
def State.put? (state : State) (number : Nat) : Option State :=
  let length := state.chars.length + 1
  let code := state.code + number / length
  let place := number % length
  if code.isValidChar then
    some {
      chars := state.chars.take place ++ Char.ofNat code :: state.chars.drop place
      code
      place := place + 1
      bias := nextBias (number - state.place) length (state.place == 0) }
  else none

/-- Puts in the characters that numbers lead to, of which there are at most `count`. -/
def readFrom : Nat → State → List Char → Option (List Char)
  | _, state, [] => some state.chars
  | 0, _, _ :: _ => none
  | count + 1, state, cs => do
    let (number, rest) ← readNumber? state.bias 36 1 state.place cs
    readFrom count (← state.put? number) rest

/-- The ASCII characters before the last hyphen, and what follows it; a hyphen at the start divides nothing. -/
def splitAscii (cs : List Char) : List Char × List Char :=
  match cs.reverse.span (· != '-') with
  | (_, []) => ([], cs)
  | (_, [_]) => ([], cs)
  | (numbers, _ :: ascii) => (ascii.reverse, numbers.reverse)

/-- The label whose form in ASCII is given. -/
def decode? (cs : List Char) : Option (List Char) :=
  let (ascii, numbers) := splitAscii cs
  readFrom numbers.length (State.start ascii) numbers

/-! ## Writing -/

/-- The places of the characters that are put in, in the order in which they are: the character, how many there are
before it is put in, and its place among these. -/
def insertions (cs : List Char) : List (Nat × Nat × Nat) :=
  let others := cs.zipIdx.filter fun (c, _) => 0x80 ≤ c.toNat
  let inOrder := others.mergeSort fun (c, n) (d, m) => c.toNat < d.toNat || (c = d && n ≤ m)
  inOrder.map fun (c, n) =>
    let before := cs.take n
    let place := before.countP (·.toNat ≤ c.toNat)
    (c.toNat, cs.countP (·.toNat < c.toNat) + before.countP (· = c), place)

/-- The numbers that put in characters after those of a state, of which `code`, `place` and `bias` count. -/
def writeFrom (code place bias : Nat) : List (Nat × Nat × Nat) → List Char
  | [] => []
  | (code', length, place') :: rest =>
    let number := (code' - code) * (length + 1) + place' - place
    numberChars bias 36 number ++ writeFrom code' (place' + 1) (nextBias number (length + 1) (place == 0)) rest

/-- The form of a label in ASCII. -/
def encode (cs : List Char) : List Char :=
  let ascii := cs.filter (·.toNat < 0x80)
  (if ascii.isEmpty then [] else ascii ++ ['-']) ++ writeFrom 0x80 0 72 (insertions cs)

end Allotment.Punycode
