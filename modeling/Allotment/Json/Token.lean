import Allotment.Json.Value
import Allotment.Bytes.Hex
import Allotment.Text.Decimal

/-!
# Tokens of JSON text

Reading never fails: text that is no token becomes the token `fault`, which is the last one. A string is kept as its
units, because an escape may name one half of a character; a numeral is kept as written, because what it denotes
depends on who asks.
-/

namespace Allotment.Json

/-- A numeral: sign, whole part, digits after the point (none if there is no point) and exponent. -/
structure Numeral where
  negative : Bool
  whole : Nat
  fraction : List Char
  exponent : Option Int
  deriving DecidableEq, Repr, Inhabited

/-- A piece of a string: a character, or the 16-bit code that an escape names. -/
inductive Piece where
  | char (c : Char)
  | code (n : Nat)
  deriving DecidableEq, Repr

/-- A token of JSON text. -/
inductive Token where
  | openBrace
  | closeBrace
  | openBracket
  | closeBracket
  | comma
  | colon
  | null
  | bool (value : Bool)
  | number (numeral : Numeral)
  | string (pieces : List Piece)
  | fault
  deriving DecidableEq, Repr

/-- White space between tokens. -/
def isSpace (c : Char) : Bool :=
  c = ' ' || c = '\n' || c = '\t' || c = '\r'

/-! ## Numerals -/

namespace Numeral

/-- A numeral with neither point nor exponent. -/
def isPlain (n : Numeral) : Bool := n.fraction.isEmpty && n.exponent.isNone

/-- The digits at the front of the text, and the rest. -/
def digits (cs : List Char) : List Char × List Char :=
  (cs.takeWhile Char.isDigit, cs.dropWhile Char.isDigit)

/-- The whole part at the front of the text: digits, the first of several not being zero. -/
def readWhole? (cs : List Char) : Option (Nat × List Char) :=
  match digits cs with
  | ([], _) => none
  | ('0' :: _ :: _, _) => none
  | (ds, rest) => some (Text.digitsValue ds, rest)

/-- The fraction at the front of the text, if a point stands there. -/
def readFraction? : List Char → Option (List Char × List Char)
  | '.' :: cs =>
    match digits cs with
    | ([], _) => none
    | (ds, rest) => some (ds, rest)
  | cs => some ([], cs)

/-- The digits of an exponent with its sign. -/
def readPower? (negative : Bool) (cs : List Char) : Option (Option Int × List Char) :=
  match digits cs with
  | ([], _) => none
  | (ds, rest) => some (some (if negative then -(Text.digitsValue ds : Int) else Text.digitsValue ds), rest)

/-- The exponent at the front of the text, if an exponent mark stands there. -/
def readExponent? : List Char → Option (Option Int × List Char)
  | c :: cs =>
    if c = 'e' || c = 'E' then
      match cs with
      | '+' :: rest => readPower? false rest
      | '-' :: rest => readPower? true rest
      | rest => readPower? false rest
    else some (none, c :: cs)
  | [] => some (none, [])

/-- The numeral at the front of the text. -/
def read? (cs : List Char) : Option (Numeral × List Char) := do
  let (negative, cs) := match cs with
    | '-' :: rest => (true, rest)
    | cs => (false, cs)
  let (whole, cs) ← readWhole? cs
  let (fraction, cs) ← readFraction? cs
  let (exponent, cs) ← readExponent? cs
  return (⟨negative, whole, fraction, exponent⟩, cs)

/-- The leading digits that keep the number within 64 bits, appended to it, and how many are left over. -/
def absorb (significand : Nat) : List Char → Nat × Nat
  | [] => (significand, 0)
  | c :: rest =>
    let next := significand * 10 + Text.digitValue c
    if next < UInt64.size then absorb next rest else (significand, rest.length + 1)

/-- The floating-point number that a numeral denotes: the digits up to 64 bits make the significand, the others only
move the point. Nothing if it is too large. -/
def toReal? (n : Numeral) : Option Binary64 :=
  let (whole, beyond) := absorb 0 (Nat.toDigits 10 n.whole)
  let (significand, unused) := absorb whole n.fraction
  let exponent := (beyond : Int) - (n.fraction.length - unused : Nat) + n.exponent.getD 0
  (Binary64.ofDecimal? significand exponent).map (·.withSign n.negative)

/-- The number that a numeral denotes: a plain one from `-2 ^ 63` to `2 ^ 64 - 1` is an integer, except that minus
zero is a floating-point number, as are all others. Nothing if it is too large. -/
def toNumber? (n : Numeral) : Option Number :=
  if n.isPlain && !n.negative && n.whole < UInt64.size then some (.integer n.whole)
  else if n.isPlain && n.negative && 0 < n.whole && n.whole ≤ 0x8000000000000000 then some (.integer (-n.whole))
  else n.toReal?.map .real

end Numeral

/-! ## Strings -/

/-- The code that four hexadecimal digits denote. -/
def readCode? (a b c d : Char) : Option Nat := do
  return ((← Hex.value? a) * 16 + (← Hex.value? b)) * 256 + (← Hex.value? c) * 16 + (← Hex.value? d)

/-- The character that a one-letter escape denotes. -/
def shortEscape? : Char → Option Char
  | '"' => some '"'
  | '\\' => some '\\'
  | '/' => some '/'
  | 'b' => some '\x08'
  | 'f' => some '\x0c'
  | 'n' => some '\n'
  | 'r' => some '\r'
  | 't' => some '\t'
  | _ => none

/-- The pieces of a string up to its closing quote, and the text after it. -/
def readPieces? : List Char → Option (List Piece × List Char)
  | [] => none
  | '"' :: rest => some ([], rest)
  | '\\' :: 'u' :: a :: b :: c :: d :: rest => do
    let code ← readCode? a b c d
    let (pieces, rest) ← readPieces? rest
    return (.code code :: pieces, rest)
  | '\\' :: e :: rest => do
    let c ← shortEscape? e
    let (pieces, rest) ← readPieces? rest
    return (.char c :: pieces, rest)
  | '\\' :: [] => none
  | c :: rest =>
    if c.toNat < 0x20 then none
    else do
      let (pieces, rest) ← readPieces? rest
      return (.char c :: pieces, rest)

/-- The first half of a character beyond 16 bits. -/
def isHighHalf (n : Nat) : Bool := 0xd800 ≤ n && n < 0xdc00

/-- The second half of a character beyond 16 bits. -/
def isLowHalf (n : Nat) : Bool := 0xdc00 ≤ n && n < 0xe000

/-- The characters that pieces denote; nothing if half a character stands alone. -/
def joinPieces? : List Piece → Option (List Char)
  | [] => some []
  | .char c :: rest => (joinPieces? rest).map (c :: ·)
  | .code n :: .code m :: rest =>
    if isHighHalf n && isLowHalf m then
      (joinPieces? rest).map (Char.ofNat (0x10000 + (n - 0xd800) * 0x400 + (m - 0xdc00)) :: ·)
    else if isHighHalf n || isLowHalf n then none
    else (joinPieces? (.code m :: rest)).map (Char.ofNat n :: ·)
  | .code n :: rest =>
    if isHighHalf n || isLowHalf n then none else (joinPieces? rest).map (Char.ofNat n :: ·)

/-! ## The tokens of a text -/

/-- The token at the front of a text that does not start with white space, and the text after it. -/
def readToken? : List Char → Option (Token × List Char)
  | '\x7b' :: rest => some (.openBrace, rest)
  | '\x7d' :: rest => some (.closeBrace, rest)
  | '[' :: rest => some (.openBracket, rest)
  | ']' :: rest => some (.closeBracket, rest)
  | ',' :: rest => some (.comma, rest)
  | ':' :: rest => some (.colon, rest)
  | 'n' :: 'u' :: 'l' :: 'l' :: rest => some (.null, rest)
  | 't' :: 'r' :: 'u' :: 'e' :: rest => some (.bool true, rest)
  | 'f' :: 'a' :: 'l' :: 's' :: 'e' :: rest => some (.bool false, rest)
  | '"' :: rest => (readPieces? rest).map fun (pieces, rest) => (.string pieces, rest)
  | cs => (Numeral.read? cs).map fun (numeral, rest) => (.number numeral, rest)

/-- The tokens of a text of at most `fuel` characters. -/
def tokensUpTo : Nat → List Char → List Token
  | 0, _ => []
  | fuel + 1, cs =>
    match cs.dropWhile isSpace with
    | [] => []
    | cs =>
      match readToken? cs with
      | some (token, rest) => token :: tokensUpTo fuel rest
      | none => [.fault]

/-- The tokens of a text; the last one is `fault` if the text goes wrong there. -/
def tokens (cs : List Char) : List Token :=
  tokensUpTo cs.length cs

end Allotment.Json
