import Allotment.Json.Binary64

/-!
# The shortest decimal that reads back

A floating-point number is shown with the fewest decimal digits that lie in its rounding interval: of all numbers of
`n` digits only the two neighbours of the exact value matter, and `n` is tried from 1 to 17.
-/

namespace Allotment.Json

/-- A positive decimal `digits * 10 ^ exponent`. -/
structure Decimal where
  digits : Nat
  exponent : Int
  deriving DecidableEq, Repr

namespace Binary64

/-- The rounding interval of a positive magnitude in units of `2 ^ (exponent - 2)`: lower end, value, upper end. -/
def interval (x : Binary64) : Nat × Nat × Nat :=
  let value := 4 * x.significand
  let below := if x.significand = leadingBit ∧ leastExponent < x.exponent then 1 else 2
  (value - below, value, value + 2)

/-- The ratio `a * 2 ^ binary / 10 ^ decimal` as a pair of naturals. -/
def onGrid (a : Nat) (binary decimal : Int) : Nat × Nat :=
  (a * twoTo binary.toNat * tenTo (-decimal).toNat, twoTo (-binary).toNat * tenTo decimal.toNat)

/-- The place of the leading digit: the least `p` with the ratio below `10 ^ p`. -/
def leadingPlace (num den : Nat) : Int :=
  if den ≤ num then (Nat.toDigits 10 (num / den)).length
  else match (List.range 400).find? fun j => den ≤ num * tenTo (j + 1) with
    | some j => -(j : Int)
    | none => 0

/-- The nearest decimal on the grid of multiples of `10 ^ place` that lies in the rounding interval, if there is
one; of two equally near the even one. -/
def nearestOnGrid? (x : Binary64) (place : Int) : Option Decimal :=
  let (low, value, high) := x.interval
  let binary := x.exponent - 2
  let (lowNum, den) := onGrid low binary place
  let (num, _) := onGrid value binary place
  let (highNum, _) := onGrid high binary place
  let inside (c : Nat) : Bool :=
    if x.significand % 2 = 0 then lowNum ≤ c * den && c * den ≤ highNum
    else lowNum < c * den && c * den < highNum
  let nearest := roundDiv num den
  let other := if nearest = num / den then nearest + 1 else num / den
  if inside nearest then some ⟨nearest, place⟩
  else if inside other then some ⟨other, place⟩
  else none

/-- The fewest digits that read back as a positive magnitude. -/
def shortest (x : Binary64) : Decimal :=
  let (num, den) := x.ratio
  let place := leadingPlace num den
  match (List.range 17).findSome? fun n => x.nearestOnGrid? (place - (n + 1 : Nat)) with
  | some decimal => decimal
  | none => ⟨num, 0⟩

/-- The digits of a decimal without zeros at their end, and the power of ten of the first one. -/
def Decimal.normal (d : Decimal) : List Char × Int :=
  let all := Nat.toDigits 10 d.digits
  ((all.reverse.dropWhile (· = '0')).reverse, d.exponent + all.length - 1)

/-- How a magnitude is written: positionally from `10 ^ -5` up to `10 ^ 16`, always with a digit after the point, and
with a signed exponent outside that range. -/
def positional (digits : List Char) (power : Int) : List Char :=
  if power < 0 then
    ['0', '.'] ++ List.replicate (-power - 1).toNat '0' ++ digits
  else
    let whole := power.toNat + 1
    let fraction := digits.drop whole
    digits.take whole ++ List.replicate (whole - digits.length) '0' ++ ['.'] ++
      (if fraction.isEmpty then ['0'] else fraction)

/-- A magnitude with one digit before the point and a signed exponent; no point after a single digit. -/
def scientific (digits : List Char) (power : Int) : List Char :=
  digits.take 1 ++ (if digits.length ≤ 1 then [] else '.' :: digits.drop 1) ++
    ['e', if power < 0 then '-' else '+'] ++ Nat.toDigits 10 power.natAbs

/-- The text of a number. -/
def chars (x : Binary64) : List Char :=
  let sign := if x.negative then ['-'] else []
  if x.isZero then sign ++ ['0', '.', '0']
  else
    let (digits, power) := Decimal.normal x.shortest
    sign ++ (if -5 ≤ power ∧ power < 16 then positional digits power else scientific digits power)

end Binary64

end Allotment.Json
