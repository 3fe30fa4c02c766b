import EnvTemplate.Text.Ascii
import EnvTemplate.Text.Cut
/-! Tables of Unicode properties, written as text. An entry `100-12E/2:101` tells something of every
second code point from U+0100 to U+012E, all numbers being hexadecimal. -/
namespace EnvTemplate.Unicode

/-- Every `step`-th code point of a range, and what the table says of it. -/
structure Entry where
  first : Nat
  last : Nat
  step : Nat
  value : List Char

namespace Entry

def covers (e : Entry) (c : Char) : Bool :=
  e.first ≤ c.toNat && c.toNat ≤ e.last && (c.toNat - e.first) % e.step == 0

def number (digits : List Char) : Nat :=
  digits.foldl (fun n c => n * 16 + (Ascii.hexValue? c).getD 0) 0

/-- The numbers of a value that lists them between points. -/
def numbers (e : Entry) : List Nat :=
  if e.value.isEmpty then [] else (e.value.splitOn '.').map number

def read (word : List Char) : Entry :=
  let (span, value) := (Text.cut ':' word).getD (word, [])
  let (range, step) := (Text.cut '/' span).getD (span, ['1'])
  let (first, last) := (Text.cut '-' range).getD (range, range)
  ⟨number first, number last, number step, value⟩

end Entry

abbrev Table := List Entry

namespace Table

def read (text : String) : Table :=
  ((text.toList.splitOnP fun c => c == ' ' || c == '\n').filter (!·.isEmpty)).map Entry.read

def entry? (t : Table) (c : Char) : Option Entry :=
  t.find? (·.covers c)

def value? (t : Table) (c : Char) : Option (List Char) :=
  (t.entry? c).map Entry.value

end Table

end EnvTemplate.Unicode
