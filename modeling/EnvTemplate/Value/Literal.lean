import EnvTemplate.Number.FloatNumeral
import EnvTemplate.Text.Ascii
import EnvTemplate.Text.Cut
/-! Scalar literals: the texts that stand for booleans, integers and floats. Blanks around a literal
do not matter. -/
namespace EnvTemplate.Literal

def strip (text : List Char) : List Char :=
  Text.strip Ascii.isLiteralBlank text

def trueWords : List (List Char) :=
  ["1".toList, "true".toList, "on".toList, "yes".toList]

def falseWords : List (List Char) :=
  ["0".toList, "false".toList, "off".toList, "no".toList, []]

/-- A boolean in any case of letters. The empty text is false. -/
def bool? (text : List Char) : Option Bool :=
  let word := Ascii.lower (strip text)
  if trueWords.contains word then some true
  else if falseWords.contains word then some false
  else none

/-- Whether a numeral has no leading zero, apart from zero itself. -/
def isCanonical (digits : List Char) : Bool :=
  Decimal.isNumeral digits && (digits.length ≤ 1 || digits.head? != some '0')

/-- An integer of 64 bits: an optional sign and a numeral without leading zeros. -/
def int? (text : List Char) : Option Int64 :=
  let (negative, digits) := Decimal.sign (strip text)
  if isCanonical digits then
    Decimal.int64? (Decimal.signed (negative.getD false) (Nat.ofDigitChars 10 digits 0))
  else none

/-- A finite float: an optional sign, digits with an optional point, and an optional exponent. -/
def float? (text : List Char) : Option Binary64 :=
  (FloatNumeral.read? (strip text)).bind fun n =>
    if n.value.isFinite then some n.value else none

end EnvTemplate.Literal
