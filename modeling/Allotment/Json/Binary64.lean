/-!
# Binary floating-point numbers of 64 bits

A finite number is a sign and a magnitude `significand * 2 ^ exponent` with at most 53 significant bits and an
exponent of at least -1074. All arithmetic is exact arithmetic on natural numbers followed by one rounding to the
nearest such number, the even one of two equally near (`roundRatio?`).
-/

namespace Allotment.Json

/-- A finite floating-point number: `significand * 2 ^ exponent`, negated if `negative`. -/
structure Binary64 where
  negative : Bool
  significand : Nat
  exponent : Int
  deriving DecidableEq, Repr, Inhabited

namespace Binary64

/-- The exponent of the smallest magnitudes. -/
def leastExponent : Int := -1074

/-- The largest exponent of a finite number with 53 significant bits. -/
def greatestExponent : Int := 971

/-- The least significand with 53 bits. -/
def leadingBit : Nat := 0x10000000000000

/-- A power of two. -/
def twoTo (n : Nat) : Nat := Nat.pow 2 n

/-- A power of ten. -/
def tenTo (n : Nat) : Nat := Nat.pow 10 n

/-- Positive zero. -/
def zero : Binary64 := ⟨false, 0, leastExponent⟩

/-- Whether the number is one of the two zeros. -/
def isZero (x : Binary64) : Bool := x.significand == 0

/-- The number with the given sign and the same magnitude. -/
def withSign (x : Binary64) (negative : Bool) : Binary64 := { x with negative }

/-- The quotient of two naturals nearest to an integer, the even one if two are equally near. -/
def roundDiv (num den : Nat) : Nat :=
  let quotient := num / den
  let twice := 2 * (num % den)
  if twice < den then quotient
  else if den < twice then quotient + 1
  else if quotient % 2 = 0 then quotient else quotient + 1

/-- The ratio `num / (den * 2 ^ exponent)` as a pair of naturals. -/
def scaleRatio (num den : Nat) (exponent : Int) : Nat × Nat :=
  if 0 ≤ exponent then (num, den * twoTo exponent.toNat) else (num * twoTo (-exponent).toNat, den)

/-- The exponent at which a positive ratio has 53 bits before the point, or the least one for a smaller ratio. -/
def exponentOf (num den : Nat) : Int :=
  let guess := (num.log2 : Int) - den.log2 - 52
  let (n, d) := scaleRatio num den guess
  max leastExponent (if n / d < leadingBit then guess - 1 else guess)

/-- The number nearest to a ratio of naturals, or nothing if that is beyond the largest finite number. -/
def roundRatio? (num den : Nat) : Option Binary64 :=
  if num = 0 then some zero
  else
    let exponent := exponentOf num den
    let (n, d) := scaleRatio num den exponent
    let significand := roundDiv n d
    let (significand, exponent) :=
      if significand = 2 * leadingBit then (leadingBit, exponent + 1) else (significand, exponent)
    if greatestExponent < exponent then none else some ⟨false, significand, exponent⟩

/-- The magnitude as a ratio of naturals. -/
def ratio (x : Binary64) : Nat × Nat :=
  if 0 ≤ x.exponent then (x.significand * twoTo x.exponent.toNat, 1) else (x.significand, twoTo (-x.exponent).toNat)

/-- The product of two magnitudes, rounded; nothing if it is too large. -/
def mul? (x y : Binary64) : Option Binary64 :=
  roundRatio? (x.ratio.1 * y.ratio.1) (x.ratio.2 * y.ratio.2)

/-- The quotient of two magnitudes, rounded. -/
def div? (x y : Binary64) : Option Binary64 :=
  roundRatio? (x.ratio.1 * y.ratio.2) (x.ratio.2 * y.ratio.1)

/-- The power of ten with a natural exponent, rounded; nothing above `10 ^ 308`. -/
def powerOfTen? (k : Nat) : Option Binary64 :=
  if k ≤ 308 then roundRatio? (tenTo k) 1 else none

/-- The magnitude `significand * 10 ^ exponent` by one rounding of the significand and one multiplication or division
by a rounded power of ten, two divisions below `10 ^ -308`; nothing if it is too large. -/
def ofDecimal? (significand : Nat) (exponent : Int) : Option Binary64 := do
  let x ← roundRatio? significand 1
  if x.isZero then return x
  if 0 ≤ exponent then
    x.mul? (← powerOfTen? exponent.toNat)
  else if -308 ≤ exponent then
    x.div? (← powerOfTen? (-exponent).toNat)
  else if -616 ≤ exponent then
    (← x.div? (← powerOfTen? 308)).div? (← powerOfTen? (-exponent - 308).toNat)
  else
    return zero

end Binary64

end Allotment.Json
