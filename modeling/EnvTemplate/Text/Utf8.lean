/-! UTF-8. Decoding splits a byte string into characters and malformed parts; a malformed part is
the longest beginning of a character's encoding that its next byte does not continue. Strict and
lossy decoding both read that one split. -/
namespace EnvTemplate.Utf8

def encodeChar (c : Char) : List UInt8 :=
  let n := c.toNat
  if n < 0x80 then [.ofNat n]
  else if n < 0x800 then [.ofNat (0xC0 + n / 64), .ofNat (0x80 + n % 64)]
  else if n < 0x10000 then
    [.ofNat (0xE0 + n / 4096), .ofNat (0x80 + n / 64 % 64), .ofNat (0x80 + n % 64)]
  else
    [.ofNat (0xF0 + n / 262144), .ofNat (0x80 + n / 4096 % 64), .ofNat (0x80 + n / 64 % 64),
      .ofNat (0x80 + n % 64)]

def encode (text : List Char) : List UInt8 :=
  text.flatMap encodeChar

/-- An encoding that has begun: the bits read so far, how many bytes are missing after the next
one, and the bounds of the next one. -/
structure Pending where
  value : Nat
  missing : Nat
  lower : UInt8
  upper : UInt8

/-- What the first byte of an encoding says. The bounds on the second byte exclude overlong forms,
surrogates and code points beyond U+10FFFF. -/
def start (a : UInt8) : Option Char ⊕ Pending :=
  if a < 0x80 then .inl (some (.ofNat a.toNat))
  else if a < 0xC2 then .inl none
  else if a < 0xE0 then .inr ⟨a.toNat - 0xC0, 0, 0x80, 0xBF⟩
  else if a < 0xF0 then
    .inr ⟨a.toNat - 0xE0, 1, if a = 0xE0 then 0xA0 else 0x80, if a = 0xED then 0x9F else 0xBF⟩
  else if a < 0xF5 then
    .inr ⟨a.toNat - 0xF0, 2, if a = 0xF0 then 0x90 else 0x80, if a = 0xF4 then 0x8F else 0xBF⟩
  else .inl none

/-- What a byte within the bounds makes of an encoding that has begun. -/
def Pending.next (p : Pending) (b : UInt8) : Option Char ⊕ Pending :=
  let value := p.value * 64 + (b.toNat - 0x80)
  match p.missing with
  | 0 => .inl (some (.ofNat value))
  | missing + 1 => .inr ⟨value, missing, 0x80, 0xBF⟩

/-- The characters of a byte string in order, `none` for each malformed part. -/
def partsFrom : Option Pending → List UInt8 → List (Option Char)
  | none, [] => []
  | some _, [] => [none]
  | none, b :: r =>
    match start b with
    | .inl c => c :: partsFrom none r
    | .inr p => partsFrom (some p) r
  | some p, b :: r =>
    if p.lower ≤ b ∧ b ≤ p.upper then
      match p.next b with
      | .inl c => c :: partsFrom none r
      | .inr q => partsFrom (some q) r
    else
      match start b with
      | .inl c => none :: c :: partsFrom none r
      | .inr q => none :: partsFrom (some q) r

def parts (bytes : List UInt8) : List (Option Char) :=
  partsFrom none bytes

/-- The text of a byte string without malformed parts. -/
def decode? (bytes : List UInt8) : Option (List Char) :=
  (parts bytes).mapM id

/-- The text of a byte string, U+FFFD for each malformed part. -/
def decodeLossy (bytes : List UInt8) : List Char :=
  (parts bytes).map (·.getD '\uFFFD')

/-- The number of bytes before the first malformed part. -/
def validLength (bytes : List UInt8) : Nat :=
  ((parts bytes).takeWhile Option.isSome).foldl
    (fun n c => n + ((c.map encodeChar).getD []).length) 0

end EnvTemplate.Utf8

namespace EnvTemplate

def utf8 (text : String) : List UInt8 :=
  Utf8.encode text.toList

end EnvTemplate
