/-! Binary64 floating point numbers, kept as their bits. Every operation is defined by exact integer
arithmetic: a finite number is a significand times a power of two, and a quotient of natural numbers
is rounded to the nearest number, a tie going to the even significand. -/
namespace EnvTemplate

/-- A number by its sign, 11 bits of exponent and 52 bits of fraction. -/
structure Binary64 where
  bits : UInt64
deriving DecidableEq, Inhabited

namespace Binary64

def isNegative (x : Binary64) : Bool :=
  Nat.pow 2 63 ≤ x.bits.toNat

/-- The bits below the sign. -/
def magnitude (x : Binary64) : Nat :=
  x.bits.toNat % Nat.pow 2 63

/-- The magnitude of infinity; those above it are the NaNs. -/
def infinityMagnitude : Nat := 2047 * Nat.pow 2 52

def isFinite (x : Binary64) : Bool :=
  x.magnitude < infinityMagnitude

def isInfinite (x : Binary64) : Bool :=
  x.magnitude == infinityMagnitude

def isNaN (x : Binary64) : Bool :=
  infinityMagnitude < x.magnitude

def isZero (x : Binary64) : Bool :=
  x.magnitude == 0

/-- The integer `m` of the representation `m · 2 ^ q` of a finite number. -/
def significand (x : Binary64) : Nat :=
  if x.magnitude < Nat.pow 2 52 then x.magnitude else x.magnitude % Nat.pow 2 52 + Nat.pow 2 52

/-- The integer `q` of the representation `m · 2 ^ q` of a finite number. -/
def exponent (x : Binary64) : Int :=
  (max (x.magnitude / Nat.pow 2 52) 1 : Nat) - 1075

def ofMagnitude (negative : Bool) (magnitude : Nat) : Binary64 :=
  ⟨.ofNat ((if negative then Nat.pow 2 63 else 0) + magnitude)⟩

def neg (x : Binary64) : Binary64 :=
  ofMagnitude (!x.isNegative) x.magnitude

def zero (negative : Bool) : Binary64 :=
  ofMagnitude negative 0

def infinity (negative : Bool) : Binary64 :=
  ofMagnitude negative infinityMagnitude

/-- The quiet NaN without payload. -/
def nan : Binary64 :=
  ofMagnitude false (infinityMagnitude + Nat.pow 2 51)

/-- The quotient rounded to the nearest integer, a tie to the even one. -/
def divideToNearest (n d : Nat) : Nat :=
  let q := n / d
  let r := n % d
  if 2 * r < d then q else if d < 2 * r then q + 1 else q + q % 2

/-- `(n / d) / 2 ^ q` as a quotient of natural numbers. -/
def scaleDown (n d : Nat) : (q : Int) → Nat × Nat
  | .ofNat k => (n, d * Nat.pow 2 k)
  | .negSucc k => (n * Nat.pow 2 (k + 1), d)

/-- The exponent of the number nearest to `n / d`: the least one, `-1074` or more, for which the
significand stays below `2 ^ 53`. -/
def roundingExponent (n d : Nat) : Int :=
  let q := (Nat.log2 n : Int) - Nat.log2 d - 53
  let (a, b) := scaleDown n d q
  max (if b * Nat.pow 2 53 ≤ a then q + 1 else q) (-1074)

/-- The number nearest to the quotient `n / d`, infinity beyond the largest finite number. -/
def ofRatio (negative : Bool) (n d : Nat) : Binary64 :=
  if n = 0 then zero negative
  else
    let q := roundingExponent n d
    let (a, b) := scaleDown n d q
    ofMagnitude negative
      (min ((q + 1074).toNat * Nat.pow 2 52 + divideToNearest a b) infinityMagnitude)

def ofInt (n : Int) : Binary64 :=
  ofRatio (n < 0) n.natAbs 1

/-- The magnitude of a finite number as a quotient of natural numbers. -/
def ratio (x : Binary64) : Nat × Nat :=
  match x.exponent with
  | .ofNat k => (x.significand * Nat.pow 2 k, 1)
  | .negSucc k => (x.significand, Nat.pow 2 (k + 1))

/-- The product of two finite numbers, rounded to the nearest number. -/
def mul (x y : Binary64) : Binary64 :=
  ofRatio (x.isNegative != y.isNegative) (x.ratio.1 * y.ratio.1) (x.ratio.2 * y.ratio.2)

def div (x y : Binary64) : Binary64 :=
  ofRatio (x.isNegative != y.isNegative) (x.ratio.1 * y.ratio.2) (x.ratio.2 * y.ratio.1)

/-- The number nearest to `digits · 10 ^ scale`. The two shortcuts spare powers of ten that can
only give zero or infinity. -/
def ofDecimal (negative : Bool) (digits : Nat) (scale : Int) : Binary64 :=
  if digits = 0 then zero negative
  else
    let length := (Nat.toDigits 10 digits).length
    if 310 < scale + length then infinity negative
    else if scale + length < -330 then zero negative
    else
      match scale with
      | .ofNat k => ofRatio negative (digits * Nat.pow 10 k) 1
      | .negSucc k => ofRatio negative digits (Nat.pow 10 (k + 1))

/-- The integer part of a finite number, its fraction dropped. -/
def truncate (x : Binary64) : Int :=
  let n := x.ratio.1 / x.ratio.2
  if x.isNegative then -(n : Int) else n

end EnvTemplate.Binary64
