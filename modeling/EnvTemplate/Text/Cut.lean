/-! Cutting lists of characters at separators, stripping their ends, and replacing every occurrence
of a pattern. All positions are counted in characters. -/
namespace EnvTemplate.Text

variable {α : Type}

/-- Drops the longest end whose members all satisfy `p`. -/
def dropEndWhile (p : α → Bool) (xs : List α) : List α :=
  (xs.reverse.dropWhile p).reverse

def strip (p : α → Bool) (xs : List α) : List α :=
  dropEndWhile p (xs.dropWhile p)

/-- What stands before and after the first member that satisfies `p`. -/
def cutWhere (p : α → Bool) : List α → Option (List α × List α)
  | [] => none
  | x :: xs => if p x then some ([], xs) else (cutWhere p xs).map fun (a, b) => (x :: a, b)

/-- What stands before and after the last member that satisfies `p`. -/
def cutLastWhere (p : α → Bool) : List α → Option (List α × List α)
  | [] => none
  | x :: xs =>
    match cutLastWhere p xs with
    | some (a, b) => some (x :: a, b)
    | none => if p x then some ([], xs) else none

variable [DecidableEq α]

def cut (separator : α) : List α → Option (List α × List α) :=
  cutWhere (· == separator)

def cutLast (separator : α) : List α → Option (List α × List α) :=
  cutLastWhere (· == separator)

/-- The rest of a list that starts with `front`. -/
def afterFront? : (front : List α) → List α → Option (List α)
  | [], xs => some xs
  | _ :: _, [] => none
  | f :: fs, x :: xs => if f = x then afterFront? fs xs else none

def cutPattern (pattern : List α) : List α → Option (List α × List α)
  | [] => (afterFront? pattern []).map fun rest => ([], rest)
  | x :: xs =>
    match afterFront? pattern (x :: xs) with
    | some rest => some ([], rest)
    | none => (cutPattern pattern xs).map fun (a, b) => (x :: a, b)

def contains (pattern : List α) : List α → Bool
  | [] => pattern.isEmpty
  | x :: xs => pattern.isPrefixOf (x :: xs) || contains pattern xs

/-- Replaces occurrences of the pattern from left to right, none overlapping an earlier one. The
first `skip` members are dropped: they belong to an occurrence that has been replaced. -/
def replaceFrom (pattern replacement : List α) : (skip : Nat) → List α → List α
  | _, [] => []
  | skip + 1, _ :: xs => replaceFrom pattern replacement skip xs
  | 0, x :: xs =>
    if pattern.isPrefixOf (x :: xs) then
      replacement ++ replaceFrom pattern replacement (pattern.length - 1) xs
    else x :: replaceFrom pattern replacement 0 xs

def replaceAll (pattern replacement : List α) (xs : List α) : List α :=
  replaceFrom pattern replacement 0 xs

end EnvTemplate.Text
