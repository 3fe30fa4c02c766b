import EnvTemplate.Number.Binary64
import EnvTemplate.Number.Decimal
/-! The shortest decimal that reads back as a given binary64 number, and the two ways in which it
is written: positional, and with an exponent where the positional form is long. -/
namespace EnvTemplate

/-- A positive decimal `0.d₁d₂… · 10 ^ point`, given by its digits. -/
structure Shortest where
  digits : List Char
  point : Int

/-- Which of two decimals that are equally near is taken. -/
inductive Tie
  | up
  | even

namespace Shortest

/-- How many decimal digits the integer part of the quotient has; for a quotient below one, minus
the number of zeros between the point and the first other digit. -/
def pointOf (n d : Nat) : Int :=
  if d ≤ n then ((Nat.toDigits 10 (n / d)).length : Nat)
  else 1 - ((Nat.toDigits 10 ((d + n - 1) / n - 1)).length : Nat)

/-- The bounds of the reals that round to a finite positive number, over the common denominator
of its quotient times four. The gap below a power of two is half the gap above it. -/
def interval (x : Binary64) : Nat × Nat × Nat × Nat :=
  let m := x.significand
  let low := if m = Nat.pow 2 52 ∧ Nat.pow 2 53 ≤ x.magnitude then 4 * m - 1 else 4 * m - 2
  match x.exponent with
  | .ofNat k => (low * Nat.pow 2 k, 4 * m * Nat.pow 2 k, (4 * m + 2) * Nat.pow 2 k, 4)
  | .negSucc k => (low, 4 * m, 4 * m + 2, 4 * Nat.pow 2 (k + 1))

/-- The better of the two neighbours of a number on the grid of `count` digits, if one of them
rounds to the number. A bound belongs to the interval iff the significand is even. -/
def onGrid (tie : Tie) (x : Binary64) (count : Nat) : Option (Nat × Int) :=
  let (low, value, high, den) := interval x
  let scale := pointOf value den - count
  let (up, down) : Nat × Nat :=
    match scale with
    | .ofNat k => (1, Nat.pow 10 k)
    | .negSucc k => (Nat.pow 10 (k + 1), 1)
  -- the grid points are `i · down / up`; all bounds are compared over `den`
  let step := den * down
  let i := value * up / step
  let closed := x.significand % 2 == 0
  let above (b : Nat) : Bool := if closed then low * up ≤ b else low * up < b
  let below (b : Nat) : Bool := if closed then b ≤ high * up else b < high * up
  let left := above (i * step) && 0 < i
  let right := below ((i + 1) * step)
  let fromLeft := value * up - i * step
  let toRight := (i + 1) * step - value * up
  if left && right then
    if fromLeft < toRight then some (i, scale)
    else if toRight < fromLeft then some (i + 1, scale)
    else match tie with
      | .up => some (i + 1, scale)
      | .even => some (i + i % 2, scale)
  else if left then some (i, scale)
  else if right then some (i + 1, scale)
  else none

/-- The exact decimal expansion of a finite number. -/
def exact (x : Binary64) : Nat × Int :=
  match x.exponent with
  | .ofNat k => (x.significand * Nat.pow 2 k, 0)
  | .negSucc k => (x.significand * Nat.pow 5 (k + 1), .negSucc k)

/-- The fewest digits that read back, and of those the nearest. Seventeen digits always suffice, so
the exact expansion stands only for what would be left without them. -/
def ofBinary64 (tie : Tie) (x : Binary64) : Shortest :=
  let (n, scale) :=
    ((List.range 17).findSome? fun i => onGrid tie x (i + 1)).getD (exact x)
  let all := Nat.toDigits 10 n
  let digits := (all.reverse.dropWhile (· == '0')).reverse
  ⟨digits, scale + all.length⟩

/-- Positional notation, without a point for an integer. -/
def positional (s : Shortest) : List Char :=
  match s.point with
  | .ofNat 0 => '0' :: '.' :: s.digits
  | .ofNat p =>
    if s.digits.length ≤ p then s.digits ++ List.replicate (p - s.digits.length) '0'
    else s.digits.take p ++ '.' :: s.digits.drop p
  | .negSucc p => '0' :: '.' :: (List.replicate (p + 1) '0' ++ s.digits)

/-- Notation with an exponent: one digit before the point, and the exponent's sign always. -/
def scientific (s : Shortest) : List Char :=
  let e := s.point - 1
  let fraction := s.digits.drop 1
  s.digits.take 1 ++ (if fraction.isEmpty then [] else '.' :: fraction) ++ 'e' ::
    (if e < 0 then '-' else '+') :: Decimal.ofNat e.natAbs

end Shortest

namespace Binary64

/-- Positional text of any number: the shortest digits that read back and never an exponent. -/
def toPlainText (x : Binary64) : List Char :=
  if x.isNaN then "NaN".toList
  else
    let body :=
      if x.isInfinite then "inf".toList
      else if x.isZero then ['0']
      else (Shortest.ofBinary64 .up x).positional
    if x.isNegative then '-' :: body else body

/-- Text of a finite number that marks it as a float: positional for magnitudes from `1e-5` to below
`1e16`, with `.0` when it is an integer, and with an exponent otherwise. -/
def toMarkedText (x : Binary64) : List Char :=
  let body :=
    if x.isZero then "0.0".toList
    else
      let s := Shortest.ofBinary64 .even x
      if -5 < s.point ∧ s.point ≤ 16 then
        if s.digits.length ≤ s.point then s.positional ++ ".0".toList else s.positional
      else s.scientific
  if x.isNegative then '-' :: body else body

end EnvTemplate.Binary64
