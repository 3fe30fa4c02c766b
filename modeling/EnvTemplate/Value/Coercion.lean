import EnvTemplate.Value.Literal
import EnvTemplate.Value.Text
/-! Coercions of values to booleans, integers and floats. A scalar that is not itself a number is
read as a literal through its text. -/
namespace EnvTemplate.Value

/-- Whether a value counts as true: a true literal or a number other than zero. Values that are not
scalars are false. -/
def isTruthy : Value → Bool
  | .bool b => b
  | .int n => n != 0
  | .float x => !x.isZero
  | v =>
    match v.scalarText? with
    | none => false
    | some text =>
      Literal.bool? text.toList == some true ||
        (Literal.int? text.toList).any (· != 0) ||
        (Literal.float? text.toList).any (!·.isZero)

/-- The integer part of a literal: an integer literal, or else a float literal without its
fraction, held within 64 bits. -/
def textToInt? (text : List Char) : Option Int64 :=
  match Literal.int? text with
  | some n => some n
  | none => (Literal.float? text).map fun x => Decimal.clampInt64 x.truncate

def toInt? : Value → Option Int64
  | .int n => some n
  | .float x => if x.isFinite then some (Decimal.clampInt64 x.truncate) else none
  | v => v.scalarText?.bind fun text => textToInt? text.toList

def toFloat? : Value → Option Binary64
  | .float x => some x
  | .int n => some (.ofInt n.toInt)
  | v => v.scalarText?.bind fun text => Literal.float? text.toList

end EnvTemplate.Value
