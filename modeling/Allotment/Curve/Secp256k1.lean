/-!
# The curve of the signatures

The curve `y ^ 2 = x ^ 3 + 7` over the integers modulo `p`, with a base point of prime order `order`. Points are kept
in Jacobian coordinates, `(x, y, z)` standing for `(x / z ^ 2, y / z ^ 3)` and `z = 0` for the point at infinity.
-/

namespace Allotment.Secp256k1

/-- The size of the coordinate field. -/
def p : Nat := 0xfffffffffffffffffffffffffffffffffffffffffffffffffffffffefffffc2f

/-- The order of the base point. -/
def order : Nat := 0xfffffffffffffffffffffffffffffffebaaedce6af48a03bbfd25e8cd0364141

/-- A power modulo `m` from the lowest `bits` bits of the exponent. -/
def powMod (m : Nat) : (bits base exponent : Nat) → Nat
  | 0, _, _ => 1 % m
  | bits + 1, base, exponent =>
    let rest := powMod m bits (base * base % m) (exponent / 2)
    if exponent % 2 = 1 then base * rest % m else rest

/-- The inverse modulo a prime of at most 256 bits. -/
def inverse (m a : Nat) : Nat := powMod m 256 (a % m) (m - 2)

/-- A point in Jacobian coordinates. -/
structure Point where
  x : Nat
  y : Nat
  z : Nat
  deriving DecidableEq

namespace Point

/-- The point at infinity. -/
def infinity : Point := ⟨1, 1, 0⟩

/-- The base point. -/
def base : Point where
  x := 0x79be667ef9dcbbac55a06295ce870b07029bfcdb2dce28d959f2815b16f81798
  y := 0x483ada7726a3c4655da4fbfc0e1108a8fd17b448a68554199c47d08ffb10d4b8
  z := 1

/-- A difference of residues. -/
def sub (a b : Nat) : Nat := (a + (p - b % p)) % p

/-- Twice a point. -/
def double (a : Point) : Point :=
  let yy := a.y * a.y % p
  let s := 4 * a.x * yy % p
  let m := 3 * a.x * a.x % p
  let x := sub (m * m) (2 * s)
  ⟨x, sub (m * sub s x) (8 * yy * yy), 2 * a.y * a.z % p⟩

/-- The sum of two points. -/
def add (a b : Point) : Point :=
  if a.z = 0 then b
  else if b.z = 0 then a
  else
    let az := a.z * a.z % p
    let bz := b.z * b.z % p
    let u := a.x * bz % p
    let v := b.x * az % p
    let s := a.y * bz % p * b.z % p
    let t := b.y * az % p * a.z % p
    if u = v then if s = t then double a else infinity
    else
      let h := sub v u
      let r := sub t s
      let hh := h * h % p
      let hhh := h * hh % p
      let uh := u * hh % p
      let x := sub (sub (r * r) hhh) (2 * uh)
      ⟨x, sub (r * sub uh x) (s * hhh), h * a.z % p * b.z % p⟩

/-- A multiple of a point from the lowest `bits` bits of the factor. -/
def multiply : (bits factor : Nat) → Point → Point
  | 0, _, _ => infinity
  | bits + 1, factor, a =>
    let rest := multiply bits (factor / 2) (double a)
    if factor % 2 = 1 then add a rest else rest

/-- The two coordinates of a point. -/
def affine (a : Point) : Nat × Nat :=
  let inv := inverse p a.z
  let inv2 := inv * inv % p
  (a.x * inv2 % p, a.y * inv2 % p * inv % p)

end Point

/-- The coordinates of a multiple of the base point. -/
def baseMultiple (k : Nat) : Nat × Nat :=
  (Point.multiply 256 k Point.base).affine

end Allotment.Secp256k1
