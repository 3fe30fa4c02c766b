import EnvTemplate.Number.Decimal
import EnvTemplate.Text.Ascii
/-! IPv6 addresses: eight pieces of 16 bits, one run of zeros left out at most, the last two pieces
possibly written as an IPv4 address. -/
namespace EnvTemplate.Ipv6

/-- The pieces read so far, and how many of them stand before the run of zeros that is left out. -/
structure Progress where
  pieces : List Nat
  gap : Option Nat

/-- How many pieces there are at least: what is left out counts as one. -/
def Progress.length (p : Progress) : Nat :=
  p.pieces.length + if p.gap.isSome then 1 else 0

/-- One byte of a dotted address: no leading zeros. -/
def dottedByte? (digits : List Char) : Option Nat :=
  if Decimal.isNumeral digits && (digits.length == 1 || digits.head? != some '0') then
    let n := Nat.ofDigitChars 10 digits 0
    if n ≤ 255 then some n else none
  else none

def dotted? (text : List Char) : Option (List Nat) :=
  match (text.splitOn '.').mapM dottedByte? with
  | some [a, b, c, d] => some [a * 256 + b, c * 256 + d]
  | _ => none

def hexNumber (digits : List Char) : Nat :=
  (digits.filterMap Ascii.hexValue?).foldl (fun n d => n * 16 + d) 0

/-- Reads pieces up to the end. Every step reads a character, so there are no more of them than the
bound. -/
def piecesFrom? : (bound : Nat) → Progress → List Char → Option Progress
  | _, p, [] => some p
  | 0, _, _ :: _ => none
  | bound + 1, p, c :: rest =>
    if p.length = 8 then none
    else if c = ':' then
      if p.gap.isSome then none
      else piecesFrom? bound { p with gap := some p.pieces.length } rest
    else
      let text := c :: rest
      let digits := (text.take 4).takeWhile Ascii.isHexDigit
      let p' := { p with pieces := p.pieces ++ [hexNumber digits] }
      match text.drop digits.length with
      | [] => some p'
      | '.' :: _ =>
        if digits.isEmpty ∨ 6 < p.length then none
        else (dotted? text).map fun two => { p with pieces := p.pieces ++ two }
      | ':' :: after => if after.isEmpty then none else piecesFrom? bound p' after
      | _ => none

def Progress.expand? (p : Progress) : Option (List Nat) :=
  match p.gap with
  | none => if p.pieces.length = 8 then some p.pieces else none
  | some n =>
    some (p.pieces.take n ++ List.replicate (8 - p.pieces.length) 0 ++ p.pieces.drop n)

def parse? : List Char → Option (List Nat)
  | ':' :: ':' :: rest => (piecesFrom? rest.length ⟨[], some 0⟩ rest).bind Progress.expand?
  | ':' :: _ => none
  | text => (piecesFrom? text.length ⟨[], none⟩ text).bind Progress.expand?

/-- The length of the run of zeros at the front. -/
def zeros (pieces : List Nat) : Nat :=
  (pieces.takeWhile (· == 0)).length

/-- Where the first longest run of zeros starts and how long it is. -/
def longestZeros (pieces : List Nat) : Nat × Nat :=
  (List.range 8).foldl
    (fun (start, length) i =>
      let n := zeros (pieces.drop i)
      if length < n then (i, n) else (start, length))
    (0, 0)

def pieceText (piece : Nat) : List Char :=
  Nat.toDigits 16 piece

def joined (pieces : List Nat) : List Char :=
  List.intercalate [':'] (pieces.map pieceText)

/-- The shortest text of an address: its first longest run of two or more zeros is left out. -/
def text (pieces : List Nat) : List Char :=
  let (start, length) := longestZeros pieces
  if length < 2 then joined pieces
  else joined (pieces.take start) ++ [':', ':'] ++ joined (pieces.drop (start + length))

end EnvTemplate.Ipv6
