import EnvTemplate.Entries
import EnvTemplate.Json.Error
import EnvTemplate.Text.Ascii
import EnvTemplate.Text.Utf8
/-! Reading JSON from bytes. A reader takes the bytes that are left and gives what it has read with
the bytes left after it. A failure is placed by how many bytes were left, so that no reader needs
to count; the place becomes a line and a column at the end. -/
namespace EnvTemplate.Json

/-- A problem, and how many bytes were left after its place. -/
structure Fault where
  problem : Problem
  left : Nat

abbrev Result (α : Type) := Except Fault (α × List UInt8)

abbrev Reader (α : Type) := List UInt8 → Result α

inductive Number
  | integer (n : Int)
  | float (x : Binary64)

def Number.toJson : Number → Json
  | .integer n => .integer n
  | .float x => .float x

namespace Reader

/-- A failure right before the bytes that are left. -/
def failBefore {α : Type} (problem : Problem) (rest : List UInt8) : Result α :=
  .error ⟨problem, rest.length⟩

/-- A failure on the first of the bytes that are left, or at the end. -/
def failOn {α : Type} (problem : Problem) (rest : List UInt8) : Result α :=
  .error ⟨problem, rest.length - 1⟩

def ascii (c : Char) : UInt8 :=
  .ofNat c.toNat

def isBlank (b : UInt8) : Bool :=
  b == ascii ' ' || b == ascii '\n' || b == ascii '\t' || b == ascii '\r'

def skipBlanks (input : List UInt8) : List UInt8 :=
  input.dropWhile isBlank

def isDigit (b : UInt8) : Bool :=
  ascii '0' ≤ b && b ≤ ascii '9'

def digitValue (b : UInt8) : Nat :=
  b.toNat - '0'.toNat

/-- Reads the rest of `null`, `true` or `false`. -/
def ident : (expected : List Char) → List UInt8 → Except Fault (List UInt8)
  | [], input => .ok input
  | _ :: _, [] => .error ⟨.eofInValue, 0⟩
  | e :: es, b :: rest => if b = ascii e then ident es rest else .error ⟨.expectedIdent, rest.length⟩

/-! Numbers. A significand holds as many digits as fit 64 bits; digits beyond them only count as
powers of ten, and the value is rounded once as an integer and once when it is scaled. -/

def maxSignificand : Nat := Nat.pow 2 64 - 1

/-- The power of ten nearest to `10 ^ n`. -/
def power (n : Nat) : Binary64 :=
  .ofRatio false (Nat.pow 10 n) 1

/-- Divides by a power of ten, at most by `10 ^ 308` at a time. -/
def divideByPower (x : Binary64) (n : Nat) : Binary64 :=
  if n ≤ 308 then x.div (power n)
  else if x.isZero then x
  else divideByPower (x.div (power 308)) (n - 308)
termination_by n

/-- The float `significand · 10 ^ scale`. A float that is too large is refused. -/
def scaled? (significand : Nat) (scale : Int) : Option Binary64 :=
  let x := Binary64.ofInt significand
  match scale with
  | .ofNat n =>
    if n ≤ 308 then
      let y := x.mul (power n)
      if y.isInfinite then none else some y
    else if x.isZero then some x
    else none
  | .negSucc n => some (divideByPower x (n + 1))

def finishFloat (negative : Bool) (significand : Nat) (scale : Int) : Reader Number := fun input =>
  match scaled? significand scale with
  | none => failBefore .numberOutOfRange input
  | some x => .ok (.float (if negative then x.neg else x), input)

/-- Reads the digits of an exponent after its first one. Beyond 31 bits it is not counted: the number
is zero or refused. -/
def exponentDigits (negative : Bool) (significand : Nat) (scale : Int) (negativeExponent : Bool) :
    (exponent : Nat) → Reader Number
  | exponent, [] => finishFloat negative significand (scale + Decimal.signed negativeExponent exponent) []
  | exponent, b :: rest =>
    if isDigit b then
      let exponent := exponent * 10 + digitValue b
      if Nat.pow 2 31 ≤ exponent then
        if significand ≠ 0 ∧ !negativeExponent then failBefore .numberOutOfRange rest
        else .ok (.float (.zero negative), rest.dropWhile isDigit)
      else exponentDigits negative significand scale negativeExponent exponent rest
    else
      finishFloat negative significand (scale + Decimal.signed negativeExponent exponent) (b :: rest)

def exponentPart (negative : Bool) (significand : Nat) (scale : Int) : Reader Number := fun input =>
  let (negativeExponent, digits) :=
    match input with
    | [] => (false, [])
    | b :: rest =>
      if b = ascii '+' then (false, rest)
      else if b = ascii '-' then (true, rest)
      else (false, b :: rest)
  match digits with
  | [] => failBefore .eofInValue []
  | b :: rest =>
    if isDigit b then
      exponentDigits negative significand scale negativeExponent (digitValue b) rest
    else failBefore .invalidNumber rest

def isExponentLetter (b : UInt8) : Bool :=
  b == ascii 'e' || b == ascii 'E'

/-- Ends a number with a point: an exponent may follow. -/
def afterFraction (negative : Bool) (significand : Nat) (scale : Int) : Reader Number
  | [] => finishFloat negative significand scale []
  | b :: rest =>
    if isExponentLetter b then exponentPart negative significand scale rest
    else finishFloat negative significand scale (b :: rest)

/-- Reads the digits after a point, at least one. -/
def fractionDigits (negative : Bool) : (first : Bool) → (significand : Nat) → (scale : Int) →
    Reader Number
  | first, significand, scale, [] =>
    if first then failOn .eofInValue [] else afterFraction negative significand scale []
  | first, significand, scale, b :: rest =>
    if isDigit b then
      let longer := significand * 10 + digitValue b
      if maxSignificand < longer then
        afterFraction negative significand scale (rest.dropWhile isDigit)
      else fractionDigits negative false longer (scale - 1) rest
    else if first then failOn .invalidNumber (b :: rest)
    else afterFraction negative significand scale (b :: rest)

/-- Counts the digits of an integer that do not fit the significand. -/
def longInteger (negative : Bool) (significand : Nat) : (scale : Int) → Reader Number
  | scale, [] => finishFloat negative significand scale []
  | scale, b :: rest =>
    if isDigit b then longInteger negative significand (scale + 1) rest
    else if b = ascii '.' then fractionDigits negative true significand scale rest
    else if isExponentLetter b then exponentPart negative significand scale rest
    else finishFloat negative significand scale (b :: rest)

/-- An integer without point and exponent. Minus zero and what lies below 64 bits are floats. -/
def plainInteger (negative : Bool) (significand : Nat) : Number :=
  if !negative then .integer significand
  else if significand = 0 ∨ Nat.pow 2 63 < significand then .float (Binary64.ofInt significand).neg
  else .integer (-(significand : Int))

/-- Ends the integer part of a number: a point or an exponent may follow. -/
def afterInteger (negative : Bool) (significand : Nat) : Reader Number
  | [] => .ok (plainInteger negative significand, [])
  | b :: rest =>
    if b = ascii '.' then fractionDigits negative true significand 0 rest
    else if isExponentLetter b then exponentPart negative significand 0 rest
    else .ok (plainInteger negative significand, b :: rest)

/-- Reads the digits of an integer after its first one. -/
def integerDigits (negative : Bool) : (significand : Nat) → Reader Number
  | significand, [] => afterInteger negative significand []
  | significand, b :: rest =>
    if isDigit b then
      let longer := significand * 10 + digitValue b
      if maxSignificand < longer then longInteger negative significand 0 (b :: rest)
      else integerDigits negative longer rest
    else afterInteger negative significand (b :: rest)

def number (negative : Bool) : Reader Number
  | [] => failBefore .eofInValue []
  | b :: rest =>
    if b = ascii '0' then
      if (rest.head?).any isDigit then failOn .invalidNumber rest
      else afterInteger negative 0 rest
    else if isDigit b then integerDigits negative (digitValue b) rest
    else failBefore .invalidNumber rest

/-! Strings. -/

def simpleEscape? (b : UInt8) : Option UInt8 :=
  if b = ascii '"' ∨ b = ascii '\\' ∨ b = ascii '/' then some b
  else if b = ascii 'b' then some 0x08
  else if b = ascii 'f' then some 0x0C
  else if b = ascii 'n' then some 0x0A
  else if b = ascii 'r' then some 0x0D
  else if b = ascii 't' then some 0x09
  else none

def hexFour? (a b c d : UInt8) : Option Nat := do
  let digit (x : UInt8) := Ascii.hexValue? (.ofNat x.toNat)
  some (((← digit a) * 16 + (← digit b)) * 256 + ((← digit c) * 16 + (← digit d)))

/-- The bytes of a code point, which is no surrogate. -/
def codePoint (n : Nat) : List UInt8 :=
  Utf8.encodeChar (.ofNat n)

def prepend (front : List UInt8) : Result (List UInt8) → Result (List UInt8)
  | .ok (bytes, rest) => .ok (front ++ bytes, rest)
  | .error e => .error e

/-- Reads a string after its opening quote, escapes replaced. A leading surrogate must be followed
by the escape of a trailing one. -/
def stringBytes : Reader (List UInt8)
  | [] => failBefore .eofInString []
  | b :: rest =>
    if b = ascii '"' then .ok ([], rest)
    else if b = ascii '\\' then
      match rest with
      | [] => failBefore .eofInString []
      | e :: rest =>
        match simpleEscape? e with
        | some c => prepend [c] (stringBytes rest)
        | none =>
          if e ≠ ascii 'u' then failBefore .invalidEscape rest
          else
            match rest with
            | a :: b :: c :: d :: rest =>
              match hexFour? a b c d with
              | none => failBefore .invalidEscape rest
              | some n =>
                if 0xDC00 ≤ n ∧ n ≤ 0xDFFF then failBefore .loneSurrogate rest
                else if n < 0xD800 ∨ 0xDBFF < n then prepend (codePoint n) (stringBytes rest)
                else
                  match rest with
                  | [] => failBefore .eofInString []
                  | x :: rest =>
                    if x ≠ ascii '\\' then failBefore .endOfHexEscape rest
                    else
                      match rest with
                      | [] => failBefore .eofInString []
                      | u :: rest =>
                        if u ≠ ascii 'u' then failBefore .endOfHexEscape rest
                        else
                          match rest with
                          | a :: b :: c :: d :: rest =>
                            match hexFour? a b c d with
                            | none => failBefore .invalidEscape rest
                            | some m =>
                              if m < 0xDC00 ∨ 0xDFFF < m then failBefore .loneSurrogate rest
                              else
                                prepend
                                  (codePoint ((n - 0xD800) * 1024 + (m - 0xDC00) + 0x10000))
                                  (stringBytes rest)
                          | _ => failBefore .eofInString []
            | _ => failBefore .eofInString []
    else if b < 0x20 then failBefore .controlCharacter rest
    else prepend [b] (stringBytes rest)

/-- Reads a string after its opening quote. Its bytes must be UTF-8; if they are not, the place is
the first byte that cannot be read. -/
def string : Reader String := fun input =>
  match stringBytes input with
  | .error e => .error e
  | .ok (bytes, rest) =>
    match Utf8.decode? bytes with
    | some text => .ok (String.ofList text, rest)
    | none => .error ⟨.invalidCodePoint, input.length - Utf8.validLength input - 1⟩

/-! Values. -/

/-- Reads one value, its containers by the given reader of an opening bracket and what follows. -/
def valueWith (container : (opening : UInt8) → Reader Json) : Reader Json := fun input =>
  match skipBlanks input with
  | [] => failOn .eofInValue []
  | b :: rest =>
    if b = ascii 'n' then (ident "ull".toList rest).map fun rest => (.null, rest)
    else if b = ascii 't' then (ident "rue".toList rest).map fun rest => (.bool true, rest)
    else if b = ascii 'f' then (ident "alse".toList rest).map fun rest => (.bool false, rest)
    else if b = ascii '-' then (number true rest).map fun (n, rest) => (n.toJson, rest)
    else if isDigit b then (number false (b :: rest)).map fun (n, rest) => (n.toJson, rest)
    else if b = ascii '"' then (string rest).map fun (s, rest) => (.string s, rest)
    else if b = ascii '[' ∨ b = ascii '{' then container b rest
    else failOn .expectedValue (b :: rest)

/-- What follows in a list: its end, or the next item. -/
def nextItem (first : Bool) (input : List UInt8) : Except Fault (Option (List UInt8) × List UInt8) :=
  match skipBlanks input with
  | [] => failOn .eofInList []
  | b :: rest =>
    if b = ascii ']' then .ok (none, rest)
    else if first then .ok (some (b :: rest), rest)
    else if b = ascii ',' then
      match skipBlanks rest with
      | [] => failOn .eofInValue []
      | c :: rest =>
        if c = ascii ']' then failOn .trailingComma (c :: rest)
        else .ok (some (c :: rest), rest)
    else failOn .expectedListCommaOrEnd (b :: rest)

/-- Reads the items of a list after its opening bracket. There are no more items than bytes. -/
def items (item : Reader Json) : (bound : Nat) → (first : Bool) → Reader (List Json)
  | 0, _, input => failOn .eofInList input
  | bound + 1, first, input =>
    match nextItem first input with
    | .error e => .error e
    | .ok (none, rest) => .ok ([], rest)
    | .ok (some start, _) =>
      match item start with
      | .error e => .error e
      | .ok (x, rest) =>
        match items item bound false rest with
        | .error e => .error e
        | .ok (xs, rest) => .ok (x :: xs, rest)

def nextKey (first : Bool) (input : List UInt8) : Except Fault (Option (List UInt8) × List UInt8) :=
  match skipBlanks input with
  | [] => failOn .eofInObject []
  | b :: rest =>
    if b = ascii '}' then .ok (none, rest)
    else if first then
      if b = ascii '"' then .ok (some rest, rest) else failOn .keyMustBeString (b :: rest)
    else if b = ascii ',' then
      match skipBlanks rest with
      | [] => failOn .eofInValue []
      | c :: rest =>
        if c = ascii '"' then .ok (some rest, rest)
        else if c = ascii '}' then failOn .trailingComma (c :: rest)
        else failOn .keyMustBeString (c :: rest)
    else failOn .expectedObjectCommaOrEnd (b :: rest)

def colon (input : List UInt8) : Except Fault (List UInt8) :=
  match skipBlanks input with
  | [] => .error ⟨.eofInObject, 0⟩
  | b :: rest => if b = ascii ':' then .ok rest else .error ⟨.expectedColon, rest.length⟩

/-- Reads the members of an object after its opening brace. -/
def members (value : Reader Json) : (bound : Nat) → (first : Bool) → List UInt8 →
    Except Fault (List (String × Json) × List UInt8)
  | 0, _, input => failOn .eofInObject input
  | bound + 1, first, input =>
    match nextKey first input with
    | .error e => .error e
    | .ok (none, rest) => .ok ([], rest)
    | .ok (some start, _) => do
      let (key, rest) ← string start
      let rest ← colon rest
      let (x, rest) ← value rest
      let (xs, rest) ← members value bound false rest
      .ok ((key, x) :: xs, rest)

/-- Reads a value that may hold containers within containers to the given depth. -/
def value : (depth : Nat) → Reader Json
  | 0 => valueWith fun opening rest => failOn .recursionLimit (opening :: rest)
  | depth + 1 => valueWith fun opening rest =>
    if opening = ascii '[' then
      (items (value depth) (rest.length + 1) true rest).map fun (xs, rest) => (.array xs, rest)
    else
      (members (value depth) (rest.length + 1) true rest).map fun (xs, rest) =>
        (.object (Entries.ofPairs xs), rest)

end Reader

/-- How deep containers may nest. -/
def maxDepth : Nat := 127

/-- Nothing but blanks may follow a document. -/
def finish {α : Type} : Result α → Except Fault α
  | .error e => .error e
  | .ok (x, rest) =>
    match Reader.skipBlanks rest with
    | [] => .ok x
    | _ :: rest => .error ⟨.trailingCharacters, rest.length⟩

def Fault.locate (input : List UInt8) (fault : Fault) : Error :=
  let read := input.take (input.length - fault.left)
  { problem := fault.problem
    line := 1 + read.count (Reader.ascii '\n')
    column := (read.reverse.takeWhile (· != Reader.ascii '\n')).length }

def readAll {α : Type} (reader : Reader α) (input : List UInt8) : Except Error α :=
  match finish (reader input) with
  | .ok x => .ok x
  | .error fault => .error (fault.locate input)

def read (input : List UInt8) : Except Error Json :=
  readAll (Reader.value maxDepth) input

def ofText (text : String) : Except Error Json :=
  read (utf8 text)

end EnvTemplate.Json
