import EnvTemplate.Number.FloatNumeral
import EnvTemplate.Text.Ascii
import EnvTemplate.Text.Cut
/-! What plain scalars spell: null, truth values, integers and floats. Anything else is text. -/
namespace EnvTemplate.Yaml.Literal

def isNull (text : List Char) : Bool :=
  ["~", "null", "Null", "NULL"].any (·.toList == text)

def bool? (text : List Char) : Option Bool :=
  if ["true", "True", "TRUE"].any (·.toList == text) then some true
  else if ["false", "False", "FALSE"].any (·.toList == text) then some false
  else none

def withoutPlus : List Char → List Char
  | '+' :: rest => rest
  | text => text

/-- Two or more digits with a leading zero, after an optional sign. They are no number. -/
def isZeroPadded (text : List Char) : Bool :=
  let digits := (Decimal.sign text).2
  digits.head? == some '0' && 1 < digits.length && digits.all Char.isDigit

def digits? (base : Nat) (text : List Char) : Option Nat := do
  let digits ← text.mapM Ascii.hexValue?
  if text.isEmpty || digits.any (base ≤ ·) then none
  else some (digits.foldl (fun n d => n * base + d) 0)

/-- The number that digits denote after the mark of their base. -/
def based? (text : List Char) : Option Nat :=
  match text with
  | '0' :: 'x' :: rest => digits? 16 rest
  | '0' :: 'o' :: rest => digits? 8 rest
  | '0' :: 'b' :: rest => digits? 2 rest
  | _ => none

/-- The number that a text without minus sign denotes. -/
def natural? (text : List Char) : Option Nat :=
  match based? (withoutPlus text) with
  | some n => some n
  | none => if isZeroPadded text then none else Decimal.toNat? (withoutPlus text)

def integer? (text : List Char) : Option Int :=
  match text with
  | '-' :: rest =>
    match based? rest with
    | some n => some (-(n : Int))
    | none => if isZeroPadded text then none else (Decimal.toNat? rest).map fun n => -(n : Int)
  | _ => (natural? text).map Int.ofNat

/-- The float that a text denotes. A numeral of a number too large for a float denotes none. -/
def float? (text : List Char) : Option Binary64 :=
  let unsigned := withoutPlus text
  if [".inf", ".Inf", ".INF"].any (·.toList == unsigned) then some (.infinity false)
  else if ["-.inf", "-.Inf", "-.INF"].any (·.toList == text) then some (.infinity true)
  else if [".nan", ".NaN", ".NAN"].any (·.toList == text) then some .nan
  else if text.head? = some '+' ∧ (Decimal.sign unsigned).1.isSome then none
  else
    (FloatNumeral.read? unsigned).bind fun n => if n.value.isFinite then some n.value else none

end EnvTemplate.Yaml.Literal
