import EnvTemplate.Number.Binary64
import EnvTemplate.Number.Decimal
/-! Decimal numerals with an optional sign, fraction and exponent, such as `-1.5e3`, `.5` and `1.`. -/
namespace EnvTemplate

/-- A numeral that denotes `digits · 10 ^ scale`, with its sign. -/
structure FloatNumeral where
  negative : Bool
  digits : Nat
  scale : Int

namespace FloatNumeral

/-- The fraction after a point and what follows it. -/
def fraction : List Char → List Char × List Char
  | '.' :: rest => rest.span Char.isDigit
  | rest => ([], rest)

/-- The exponent, which must end the numeral. -/
def exponent? : List Char → Option Int
  | [] => some 0
  | c :: rest => if c = 'e' ∨ c = 'E' then Decimal.toInt? rest else none

/-- Reads a whole text as a numeral. A digit must stand before the point or after it. -/
def read? (text : List Char) : Option FloatNumeral :=
  let (negative, body) := Decimal.sign text
  let (whole, afterWhole) := body.span Char.isDigit
  let (fraction, rest) := fraction afterWhole
  if whole.isEmpty && fraction.isEmpty then none
  else
    (exponent? rest).map fun e =>
      ⟨negative.getD false, Nat.ofDigitChars 10 (whole ++ fraction) 0, e - fraction.length⟩

def value (n : FloatNumeral) : Binary64 :=
  .ofDecimal n.negative n.digits n.scale

end EnvTemplate.FloatNumeral
