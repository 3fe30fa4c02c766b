import EnvTemplate.Json.Skip
import EnvTemplate.Settings
/-! Reading settings from JSON: an object with their fields, or a list of the fields in order. Fields
may be missing, and unknown ones are passed over. -/
namespace EnvTemplate.Settings

open Json (Fault Found)
open Json.Reader

/-- Refuses a value of another type than the expected one. A scalar is read first, and what is wrong
with itself counts before its type. -/
def refuse {α : Type} (expected : String) (input : List UInt8) :
    Except Fault (α × List UInt8) :=
  let wrong (found : Found) (rest : List UInt8) : Except Fault (α × List UInt8) :=
    failBefore (.invalidType found expected) rest
  let afterIdent (word : String) (found : Found) (rest : List UInt8) :
      Except Fault (α × List UInt8) := do
    let rest ← ident word.toList rest
    wrong found rest
  let afterNumber (negative : Bool) (digits : List UInt8) : Except Fault (α × List UInt8) := do
    match ← number negative digits with
    | (.integer n, rest) => wrong (.integer n) rest
    | (.float x, rest) => wrong (.float x) rest
  match input with
  | [] => failOn .expectedValue []
  | b :: rest =>
    if b = ascii 'n' then afterIdent "ull" .null rest
    else if b = ascii 't' then afterIdent "rue" (.bool true) rest
    else if b = ascii 'f' then afterIdent "alse" (.bool false) rest
    else if b = ascii '-' then afterNumber true rest
    else if isDigit b then afterNumber false input
    else if b = ascii '"' then
      match string rest with
      | .ok (s, rest) => wrong (.string s) rest
      | .error e => .error e
    else if b = ascii '[' then wrong .sequence input
    else if b = ascii '{' then wrong .map input
    else failOn .expectedValue input

/-- The bytes of the next value, which must be there. -/
def start (input : List UInt8) : Except Fault (UInt8 × List UInt8) :=
  match skipBlanks input with
  | [] => .error ⟨.eofInValue, 0⟩
  | b :: rest => .ok (b, rest)

/-- Reads a number that is not negative and fits 64 bits. -/
def limit (input : List UInt8) : Except Fault (Nat × List UInt8) := do
  let expected := "usize"
  let (b, rest) ← start input
  let read :=
    if b = ascii '-' then some (number true rest)
    else if isDigit b then some (number false (b :: rest))
    else none
  match read with
  | none => refuse expected (b :: rest)
  | some (.error e) => .error e
  | some (.ok (.float x, rest)) => failBefore (.invalidType (.float x) expected) rest
  | some (.ok (.integer (.negSucc n), rest)) =>
    failBefore (.invalidValue (.integer (.negSucc n)) expected) rest
  | some (.ok (.integer (.ofNat n), rest)) => .ok (n, rest)

def text (input : List UInt8) : Except Fault (String × List UInt8) := do
  let (b, rest) ← start input
  if b = ascii '"' then string rest else refuse "a string" (b :: rest)

/-- Reads the members of an object of texts after its opening brace. There are no more members than
bytes. -/
def textMembers : (bound : Nat) → (first : Bool) → List UInt8 →
    Except Fault (List (String × String) × List UInt8)
  | 0, _, input => failOn .eofInObject input
  | bound + 1, first, input => do
    match ← nextKey first input with
    | (none, rest) => .ok ([], rest)
    | (some key, _) =>
      let (name, rest) ← string key
      let rest ← colon rest
      let (value, rest) ← text rest
      let (others, rest) ← textMembers bound false rest
      .ok ((name, value) :: others, rest)

def textMap (input : List UInt8) : Except Fault (Entries String × List UInt8) := do
  let (b, rest) ← start input
  if b = ascii '{' then do
    let (pairs, rest) ← textMembers (rest.length + 1) true rest
    .ok (Entries.ofPairs pairs, rest)
  else refuse "a map" (b :: rest)

structure Fields where
  depth : Option Nat := none
  seeds : Option (Entries String) := none

def Fields.settings (f : Fields) : Settings where
  maxNestingDepth := f.depth.getD Template.defaultLimit
  seedVariables := f.seeds.getD []

/-- Refuses a field that has been read before, after the blanks or the closing brace that follow its
name. -/
def duplicate {α : Type} (name : String) (afterName : List UInt8) : Except Fault α :=
  let rest := skipBlanks afterName
  let rest := if rest.head? = some (ascii '}') then rest.drop 1 else rest
  .error ⟨.duplicateField name, rest.length⟩

/-- Reads the members of settings after the opening brace. There are no more members than bytes. -/
def fieldMembers : (bound : Nat) → (first : Bool) → Fields → List UInt8 →
    Except Fault (Fields × List UInt8)
  | 0, _, _, input => failOn .eofInObject input
  | bound + 1, first, fields, input => do
    match ← nextKey first input with
    | (none, rest) => .ok (fields, rest)
    | (some key, _) =>
      let (name, afterName) ← string key
      let (fields, rest) ←
        if name = depthField then do
          if fields.depth.isSome then duplicate name afterName
          let rest ← colon afterName
          let (n, rest) ← limit rest
          Except.ok ({ fields with depth := some n }, rest)
        else if name = variablesField then do
          if fields.seeds.isSome then duplicate name afterName
          let rest ← colon afterName
          let (m, rest) ← textMap rest
          Except.ok ({ fields with seeds := some m }, rest)
        else do
          let rest ← colon afterName
          let rest ← skipValue rest
          Except.ok (fields, rest)
      fieldMembers bound false fields rest

def endOfList (input : List UInt8) : Except Fault (List UInt8) :=
  match skipBlanks input with
  | [] => .error ⟨.eofInList, 0⟩
  | b :: rest =>
    if b = ascii ']' then .ok rest
    else if b = ascii ',' then
      match skipBlanks rest with
      | c :: rest =>
        .error ⟨if c = ascii ']' then .trailingComma else .trailingCharacters, rest.length⟩
      | [] => .error ⟨.trailingCharacters, 0⟩
    else .error ⟨.trailingCharacters, rest.length⟩

/-- Reads the fields of settings as a list after its opening bracket. -/
def fieldList (input : List UInt8) : Except Fault (Fields × List UInt8) := do
  match ← nextItem true input with
  | (none, rest) => .ok ({}, rest)
  | (some item, _) =>
    let (n, rest) ← limit item
    match ← nextItem false rest with
    | (none, rest) => .ok ({ depth := some n }, rest)
    | (some item, _) =>
      let (m, rest) ← textMap item
      let rest ← endOfList rest
      .ok ({ depth := some n, seeds := some m }, rest)

def fields (input : List UInt8) : Except Fault (Settings × List UInt8) := do
  let (b, rest) ← start input
  if b = ascii '{' then do
    let (f, rest) ← fieldMembers (rest.length + 1) true {} rest
    .ok (f.settings, rest)
  else if b = ascii '[' then do
    let (f, rest) ← fieldList rest
    .ok (f.settings, rest)
  else refuse "struct ResolverSettings" (b :: rest)

def ofJsonBytes (input : List UInt8) : Except Json.Error Settings :=
  Json.readAll fields input

end EnvTemplate.Settings
