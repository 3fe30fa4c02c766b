import EnvTemplate.Text.Cut
import EnvTemplate.Text.Utf8
/-! Placeholders in a text. A placeholder opens with `%env(` and is closed by the `)%` that balances
its opening; what stands between is its heap. -/
namespace EnvTemplate

/-- A placeholder with its heap, at the characters from `start` to before `stop`. -/
structure Placeholder where
  start : Nat
  stop : Nat
  heap : String
deriving DecidableEq

namespace Placeholder

def opening : List Char := "%env(".toList

def closing : List Char := ")%".toList

def written (heap : List Char) : List Char :=
  opening ++ heap ++ closing

/-- What stands before the closing that leaves `depth` openings unbalanced and closes one more. -/
def balanced (depth : Nat) : List Char → Option (List Char)
  | '%' :: 'e' :: 'n' :: 'v' :: '(' :: rest => (balanced (depth + 1) rest).map (opening ++ ·)
  | ')' :: '%' :: rest =>
    match depth with
    | 0 => some []
    | depth + 1 => (balanced depth rest).map (closing ++ ·)
  | c :: rest => (balanced depth rest).map (c :: ·)
  | [] => none

def heapAtFront? (text : List Char) : Option (List Char) :=
  (Text.afterFront? opening text).bind (balanced 0)

/-- The innermost placeholders of a text whose first character has the given position. None starts
before the position `free`. -/
def innermostFrom (position free : Nat) : List Char → List Placeholder
  | [] => []
  | c :: rest =>
    match heapAtFront? (c :: rest) with
    | none => innermostFrom (position + 1) free rest
    | some heap =>
      if Text.contains opening heap ∨ position < free then innermostFrom (position + 1) free rest
      else
        let stop := position + (written heap).length
        ⟨position, stop, String.ofList heap⟩ :: innermostFrom (position + 1) stop rest

/-- The placeholders whose heaps hold no opening of another. Where two overlap, the left one counts. -/
def innermost (text : List Char) : List Placeholder :=
  innermostFrom 0 0 text

/-- The place of a placeholder in the UTF-8 encoding of its text. -/
def byteSpan (p : Placeholder) (text : List Char) : Nat × Nat :=
  ((Utf8.encode (text.take p.start)).length, (Utf8.encode (text.take p.stop)).length)

end Placeholder

end EnvTemplate
