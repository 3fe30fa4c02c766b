/-! Mappings with string keys that keep the order in which their keys first came. -/
namespace EnvTemplate

/-- Entries in order. The operations below never give a key two entries. -/
abbrev Entries (α : Type) := List (String × α)

namespace Entries

variable {α : Type}

def keys (m : Entries α) : List String :=
  m.map Prod.fst

def get? (m : Entries α) (key : String) : Option α :=
  m.lookup key

/-- Gives a key a value, at its present place or else at the end. -/
def insert (m : Entries α) (key : String) (value : α) : Entries α :=
  match m with
  | [] => [(key, value)]
  | (k, v) :: rest => if k = key then (k, value) :: rest else (k, v) :: insert rest key value

/-- The mapping that a list of pairs builds: a later value wins, at the earlier place. -/
def ofPairs (pairs : List (String × α)) : Entries α :=
  pairs.foldl (fun m (key, value) => m.insert key value) []

/-- Whether no key has two entries. -/
def Distinct (m : Entries α) : Prop :=
  m.keys.Nodup

end EnvTemplate.Entries
