import EnvTemplate.Codec.Form
import EnvTemplate.Number.Decimal
import EnvTemplate.Url
import EnvTemplate.Value
/-! Query strings with bracketed keys. `a[]=1&a[]=2` stands for a sequence under `a`, and `a[x]=1`
for a mapping; brackets nest. Appending to a mapping uses the number after its largest one; a number
beyond 64 bits leaves the query without a value. -/
namespace EnvTemplate.Query

/-- A step from a value into a part of it: under a key, or past its end. -/
inductive Segment
  | under (key : String)
  | append
deriving DecidableEq

def Segment.ofText (text : List Char) : Segment :=
  if text.isEmpty then .append else .under (String.ofList text)

/-- A decoded key: a name and the segments that follow it. -/
structure Key where
  base : String
  segments : List Segment
deriving DecidableEq

/-- The segments of a row of brackets, up to the first character that no bracket opens or the first
bracket that is not closed. Inside a bracket `inner` holds what it has shown so far, in reverse. -/
def segmentsFrom : (inner : Option (List Char)) → List Char → List Segment
  | _, [] => []
  | none, c :: rest => if c = '[' then segmentsFrom (some []) rest else []
  | some inner, c :: rest =>
    if c = ']' then .ofText inner.reverse :: segmentsFrom none rest
    else segmentsFrom (some (c :: inner)) rest

/-- Splits a key into its name and segments. A key without a name is refused; a key whose first
bracket is never closed is a name as a whole. -/
def splitKey (key : List Char) : Option Key :=
  let base := key.takeWhile (· != '[')
  let brackets := key.dropWhile (· != '[')
  if base.isEmpty then none
  else if brackets.contains ']' then some ⟨String.ofList base, segmentsFrom none brackets⟩
  else some ⟨String.ofList key, []⟩

/-- The entries of a value that is indexed by keys. The items of a sequence get their positions as
keys; any other value is lost. -/
def asMapping : Value → Entries Value
  | .mapping entries => entries
  | .sequence items =>
    items.mapIdx fun i item => (String.ofList (Decimal.ofNat i), item)
  | _ => []

/-- The 64-bit integer that a key spells, with or without a sign. -/
def keyNumber? (key : String) : Option Int64 :=
  (Decimal.toInt? key.toList).bind Decimal.int64?

/-- The number after the largest one among the keys that is not negative, else zero. -/
def nextIndex (entries : Entries Value) : Option Int64 :=
  match (entries.keys.filterMap keyNumber?).filter (0 ≤ ·) with
  | [] => some 0
  | n :: rest => Decimal.int64? ((rest.foldl max n).toInt + 1)

/-- The value of a slot after a text has been stored in it along the segments. -/
def assign (slot : Value) : List Segment → (text : String) → Option Value
  | [], text => some (.string text)
  | .append :: rest, text => do
    let child ← assign .null rest text
    match slot with
    | .sequence items => some (.sequence (items ++ [child]))
    | .mapping entries =>
      let index ← nextIndex entries
      some (.mapping (Entries.insert entries (String.ofList (Decimal.ofInt index.toInt)) child))
    | _ => some (.sequence [child])
  | .under key :: rest, text => do
    let entries := asMapping slot
    let child ← assign ((Entries.get? entries key).getD .null) rest text
    some (.mapping (Entries.insert entries key child))

def store (entries : Entries Value) (pair : List Char × List Char) : Option (Entries Value) :=
  match splitKey pair.1 with
  | none => some entries
  | some key => do
    let value ← assign ((Entries.get? entries key.base).getD .null) key.segments (String.ofList pair.2)
    some (Entries.insert entries key.base value)

/-- A pair is stored under its name and along its segments. -/
theorem mapping_store {entries : Entries Value} {pair : List Char × List Char} {key : Key}
    (split : splitKey pair.1 = some key) :
    (store entries pair).map Value.mapping =
      assign (.mapping entries) (.under key.base :: key.segments) (String.ofList pair.2) := by
  simp only [store, split, assign, asMapping]
  cases assign ((Entries.get? entries key.base).getD .null) key.segments _ <;> rfl

def ofPairs (pairs : List (List Char × List Char)) : Option (Entries Value) :=
  pairs.foldlM store []

/-- The query of a text: of a URL its query component, and of any other text what stands after its
first question mark, if it has one, and before a number sign. -/
def component (text : List Char) : List Char :=
  match Url.parse? text with
  | some url => url.query.getD []
  | none =>
    let query := ((Text.cut '?' text).map Prod.snd).getD text
    query.takeWhile (· != '#')

def parse (query : List Char) : Option (Entries Value) :=
  ofPairs (Form.pairs query)

end EnvTemplate.Query
