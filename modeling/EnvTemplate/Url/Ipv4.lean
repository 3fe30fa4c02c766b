import EnvTemplate.Number.Decimal
import EnvTemplate.Text.Ascii
import EnvTemplate.Text.Cut
/-! IPv4 addresses in the spellings that URLs admit: one to four numbers, each decimal, octal or
hexadecimal, the last one filling the bytes that are left. -/
namespace EnvTemplate.Ipv4

/-- The base of a number and its digits after the mark of the base. -/
def baseOf : List Char → Nat × List Char
  | '0' :: 'x' :: digits => (16, digits)
  | '0' :: 'X' :: digits => (16, digits)
  | '0' :: c :: digits => (8, c :: digits)
  | digits => (10, digits)

/-- The number that a part spells, of any size. A mark alone is zero. -/
def number? (part : List Char) : Option Nat :=
  if part.isEmpty then none
  else
    let (base, digits) := baseOf part
    let values := digits.map Ascii.hexValue?
    if values.all fun v => v.any (· < base) then
      some ((values.filterMap id).foldl (fun n d => n * base + d) 0)
    else none

/-- The parts of a host between its dots, a last empty one left out. -/
def parts (host : List Char) : List (List Char) :=
  let all := host.splitOn '.'
  if 1 < all.length && all.getLast? == some [] then all.dropLast else all

/-- Whether a host must be read as an address: its last part is a number. -/
def endsInNumber (host : List Char) : Bool :=
  match (parts host).getLast? with
  | none => false
  | some last => (!last.isEmpty && last.all Char.isDigit) || (number? last).isSome

def bytes (address : Nat) : List Nat :=
  [address / Nat.pow 2 24 % 256, address / Nat.pow 2 16 % 256, address / Nat.pow 2 8 % 256,
    address % 256]

def parse? (host : List Char) : Option Nat := do
  let numbers ← (parts host).mapM number?
  let last ← numbers.getLast?
  let front := numbers.dropLast
  if 3 < front.length ∨ Nat.pow 256 (4 - front.length) ≤ last ∨ front.any (255 < ·) then none
  else some (front.zipIdx.foldl (fun n (b, i) => n + b * Nat.pow 256 (3 - i)) last)

def text (address : Nat) : List Char :=
  List.intercalate ['.'] ((bytes address).map Decimal.ofNat)

end EnvTemplate.Ipv4
