/-! Decimal numerals of natural numbers and integers. -/
namespace EnvTemplate.Decimal

/-- The numeral of a natural number, without leading zeros. -/
def ofNat (n : Nat) : List Char :=
  Nat.toDigits 10 n

/-- The numeral of an integer: a minus sign for a negative one, no plus sign. -/
def ofInt : Int → List Char
  | .ofNat n => ofNat n
  | .negSucc n => '-' :: ofNat (n + 1)

def isNumeral (text : List Char) : Bool :=
  !text.isEmpty && text.all Char.isDigit

/-- The number that a numeral denotes, leading zeros allowed. -/
def toNat? (text : List Char) : Option Nat :=
  if isNumeral text then some (Nat.ofDigitChars 10 text 0) else none

/-- A sign, if the text begins with one, and what follows it. `true` stands for minus. -/
def sign : List Char → Option Bool × List Char
  | '+' :: rest => (some false, rest)
  | '-' :: rest => (some true, rest)
  | text => (none, text)

def signed (negative : Bool) (n : Nat) : Int :=
  if negative then -(n : Int) else n

def toInt? (text : List Char) : Option Int :=
  let (negative, digits) := sign text
  (toNat? digits).map (signed (negative.getD false))

/-- The smallest and the largest integer of 64 bits. -/
def minInt64 : Int := -Nat.pow 2 63

def maxInt64 : Int := Nat.pow 2 63 - 1

/-- The integer of 64 bits that equals `n`, if there is one. -/
def int64? (n : Int) : Option Int64 :=
  if minInt64 ≤ n ∧ n ≤ maxInt64 then some (.ofInt n) else none

def clampInt64 (n : Int) : Int64 :=
  .ofInt (max minInt64 (min n maxInt64))

end EnvTemplate.Decimal
