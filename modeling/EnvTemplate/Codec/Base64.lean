/-! Base64 with the standard or the URL-safe alphabet, mixed freely. Padding may be written, left out
or cut short, but the bits that a last group leaves over must be zero, so that every byte string
has one payload up to alphabet and padding. -/
namespace EnvTemplate.Base64

inductive Fault
  /-- A character that is no symbol, neither alphabet's, and no padding. -/
  | charset
  /-- A payload of symbols that encodes nothing. -/
  | malformed
deriving DecidableEq

/-- The standard symbol of a number below 64. -/
def symbol (n : Nat) : Char :=
  if n < 26 then .ofNat ('A'.toNat + n)
  else if n < 52 then .ofNat ('a'.toNat + (n - 26))
  else if n < 62 then .ofNat ('0'.toNat + (n - 52))
  else if n = 62 then '+'
  else '/'

def value? (c : Char) : Option Nat :=
  if 'A' ≤ c ∧ c ≤ 'Z' then some (c.toNat - 'A'.toNat)
  else if 'a' ≤ c ∧ c ≤ 'z' then some (c.toNat - 'a'.toNat + 26)
  else if c.isDigit then some (c.toNat - '0'.toNat + 52)
  else if c = '+' then some 62
  else if c = '/' then some 63
  else none

/-- The standard symbol for a symbol of either alphabet. -/
def standardize (c : Char) : Char :=
  if c = '-' then '+' else if c = '_' then '/' else c

/-- The payload of a byte string in the standard alphabet, without padding. -/
def encode : List UInt8 → List Char
  | [] => []
  | [a] =>
    let n := a.toNat
    [symbol (n / 4), symbol (n % 4 * 16)]
  | [a, b] =>
    let n := a.toNat * 256 + b.toNat
    [symbol (n / 1024), symbol (n / 16 % 64), symbol (n % 16 * 4)]
  | a :: b :: c :: rest =>
    let n := a.toNat * 65536 + b.toNat * 256 + c.toNat
    symbol (n / 262144) :: symbol (n / 4096 % 64) :: symbol (n / 64 % 64) :: symbol (n % 64) ::
      encode rest

/-- The byte that two last symbols encode. -/
def decodeTwo (a b : Char) : Option (List UInt8) := do
  let n := (← value? a) * 64 + (← value? b)
  if n % 16 = 0 then some [.ofNat (n / 16)] else none

def decodeThree (a b c : Char) : Option (List UInt8) := do
  let n := (← value? a) * 4096 + (← value? b) * 64 + (← value? c)
  if n % 4 = 0 then some [.ofNat (n / 1024), .ofNat (n / 4 % 256)] else none

/-- The three bytes of a full group. -/
def decodeFour (a b c d : Char) : Option (List UInt8) := do
  let n := (← value? a) * 262144 + (← value? b) * 4096 + (← value? c) * 64 + (← value? d)
  some [.ofNat (n / 65536), .ofNat (n / 256 % 256), .ofNat (n % 256)]

/-- Decodes groups of four symbols; the last group may be short, or padded after two symbols. -/
def decodeGroups : List Char → Option (List UInt8)
  | [] => some []
  | [_] => none
  | [a, b] => decodeTwo a b
  | [a, b, c] => if c = '=' then decodeTwo a b else decodeThree a b c
  | [a, b, c, d] =>
    if d = '=' then if c = '=' then decodeTwo a b else decodeThree a b c
    else decodeFour a b c d
  | a :: b :: c :: d :: rest => do
    let group ← decodeFour a b c d
    let bytes ← decodeGroups rest
    some (group ++ bytes)

def decode (payload : List Char) : Except Fault (List UInt8) :=
  let standard := payload.map standardize
  if standard.all fun c => (value? c).isSome || c == '=' then
    match decodeGroups standard with
    | some bytes => .ok bytes
    | none => .error .malformed
  else .error .charset

end EnvTemplate.Base64
