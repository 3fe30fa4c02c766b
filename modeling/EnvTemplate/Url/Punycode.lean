import EnvTemplate.Text.Cut
/-! Punycode: labels of any characters written with ASCII letters, digits and hyphens. -/
namespace EnvTemplate.Punycode

def digit (d : Nat) : Char :=
  if d < 26 then .ofNat ('a'.toNat + d) else .ofNat ('0'.toNat + (d - 26))

def digitValue? (c : Char) : Option Nat :=
  if 'a' ≤ c ∧ c ≤ 'z' then some (c.toNat - 'a'.toNat)
  else if 'A' ≤ c ∧ c ≤ 'Z' then some (c.toNat - 'A'.toNat)
  else if c.isDigit then some (c.toNat - '0'.toNat + 26)
  else none

def threshold (k bias : Nat) : Nat :=
  max 1 (min 26 (k - bias))

/-- Divides a difference until it is small, counting positions. -/
def settle (delta k : Nat) : Nat :=
  if 455 < delta then settle (delta / 35) (k + 36)
  else k + 36 * delta / (delta + 38)
termination_by delta

/-- The bias after a difference, `points` characters having been placed. -/
def adapt (delta points : Nat) (first : Bool) : Nat :=
  let delta := if first then delta / 700 else delta / 2
  settle (delta + delta / points) 0

theorem threshold_pos (k bias : Nat) : 1 ≤ threshold k bias :=
  Nat.le_max_left ..

/-- The digits of a difference, the least significant one first. -/
def digitsOf (q k bias : Nat) : List Char :=
  let t := threshold k bias
  if q < t then [digit q]
  else digit (t + (q - t) % (36 - t)) :: digitsOf ((q - t) / (36 - t)) (k + 36) bias
termination_by q
decreasing_by
  have := threshold_pos k bias
  calc (q - threshold k bias) / (36 - threshold k bias) ≤ q - threshold k bias := Nat.div_le_self ..
    _ < q := by omega

/-- The state of an encoder: the difference that has gathered, the bias, and how many characters
have been placed. -/
structure Encoder where
  output : List Char
  delta : Nat
  bias : Nat
  placed : Nat

/-- Passes over the label once for the code point `n`: characters below it count, and those equal to
it are placed. -/
def Encoder.pass (basic n : Nat) (e : Encoder) (label : List Char) : Encoder :=
  label.foldl
    (fun e c =>
      if c.toNat < n then { e with delta := e.delta + 1 }
      else if c.toNat = n then
        { output := e.output ++ digitsOf e.delta 36 e.bias
          delta := 0
          bias := adapt e.delta (e.placed + 1) (e.placed == basic)
          placed := e.placed + 1 }
      else e)
    e

/-- Places the characters of the next code point `n`, given the encoder and where the last pass ended. -/
def Encoder.advance (basic : Nat) (label : List Char) (state : Encoder × Nat) (n : Nat) :
    Encoder × Nat :=
  let (e, previous) := state
  let e := { e with delta := e.delta + (n - previous) * (e.placed + 1) }
  let e := e.pass basic n label
  ({ e with delta := e.delta + 1 }, n + 1)

def encode (label : List Char) : List Char :=
  let basic := label.filter (·.toNat < 128)
  let others := ((label.filter (128 ≤ ·.toNat)).map Char.toNat).eraseDups.mergeSort
  let first : Encoder :=
    { output := if basic.isEmpty then [] else basic ++ ['-']
      delta := 0, bias := 72, placed := basic.length }
  (others.foldl (Encoder.advance basic.length label) (first, 128)).1.output

/-- The state of a decoder between two characters of its input: what has been decoded, the last code
point and its place, the bias, and the number that is being read. -/
structure Decoder where
  output : List Char
  point : Nat := 128
  place : Nat := 0
  bias : Nat := 72
  sum : Nat := 0
  weight : Nat := 1
  k : Nat := 36

/-- Reads one digit. The last digit of a number places a character. -/
def Decoder.read? (d : Decoder) (c : Char) : Option Decoder := do
  let v ← digitValue? c
  let sum := d.sum + v * d.weight
  let t := threshold d.k d.bias
  if t ≤ v then
    some { d with sum := sum, weight := d.weight * (36 - t), k := d.k + 36 }
  else
    let length := d.output.length + 1
    let place := d.place + sum
    let point := d.point + place / length
    if 0x10FFFF < point ∨ 0xD800 ≤ point ∧ point ≤ 0xDFFF then none
    else
      let index := place % length
      some
        { output := d.output.take index ++ Char.ofNat point :: d.output.drop index
          point := point
          place := index + 1
          bias := adapt sum length (d.place == 0) }

/-- The ASCII characters of an encoding, which its last hyphen ends, and the digits after them. A hyphen
in front ends nothing. -/
def basicPart (encoding : List Char) : List Char × List Char :=
  match Text.cutLast '-' encoding with
  | some (c :: basic, digits) => (c :: basic, digits)
  | _ => ([], encoding)

def decode? (encoding : List Char) : Option (List Char) := do
  let (basic, digits) := basicPart encoding
  let d ← digits.foldlM Decoder.read? { output := basic }
  if d.k = 36 then some d.output else none

end EnvTemplate.Punycode
