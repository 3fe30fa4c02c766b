import EnvTemplate.Json.Reader
/-! Passing over a JSON value whose content does not matter. Numbers and strings are checked for their
form only, and containers may nest without limit. -/
namespace EnvTemplate.Json.Reader

abbrev Skipper := List UInt8 → Except Fault (List UInt8)

inductive Bracket
  | list
  | object
deriving DecidableEq

def Bracket.closing : Bracket → UInt8
  | list => ascii ']'
  | object => ascii '}'

def skipExponent : Skipper := fun input =>
  let digits :=
    match input with
    | b :: rest => if b = ascii '+' ∨ b = ascii '-' then rest else input
    | [] => []
  match digits with
  | b :: rest =>
    if isDigit b then .ok (rest.dropWhile isDigit) else .error ⟨.invalidNumber, rest.length⟩
  | [] => .error ⟨.invalidNumber, 0⟩

def skipAfterFraction : Skipper
  | b :: rest => if isExponentLetter b then skipExponent rest else .ok (b :: rest)
  | [] => .ok []

def skipAfterInteger : Skipper
  | b :: rest =>
    if b = ascii '.' then
      if (rest.head?).any isDigit then skipAfterFraction (rest.dropWhile isDigit)
      else .error ⟨.invalidNumber, rest.length - 1⟩
    else skipAfterFraction (b :: rest)
  | [] => .ok []

/-- Passes over a number after its minus sign, if it has one. -/
def skipNumber : Skipper
  | b :: rest =>
    if b = ascii '0' then
      if (rest.head?).any isDigit then .error ⟨.invalidNumber, rest.length - 1⟩
      else skipAfterInteger rest
    else if isDigit b then skipAfterInteger (rest.dropWhile isDigit)
    else .error ⟨.invalidNumber, rest.length⟩
  | [] => .error ⟨.invalidNumber, 0⟩

/-- Passes over a string after its opening quote. -/
def skipString : Skipper
  | [] => .error ⟨.eofInString, 0⟩
  | b :: rest =>
    if b = ascii '"' then .ok rest
    else if b = ascii '\\' then
      match rest with
      | [] => .error ⟨.eofInString, 0⟩
      | e :: rest =>
        if (simpleEscape? e).isSome then skipString rest
        else if e ≠ ascii 'u' then .error ⟨.invalidEscape, rest.length⟩
        else
          match rest with
          | a :: b :: c :: d :: rest =>
            if (hexFour? a b c d).isSome then skipString rest
            else .error ⟨.invalidEscape, rest.length⟩
          | _ => .error ⟨.eofInString, 0⟩
    else if b < 0x20 then .error ⟨.controlCharacter, rest.length + 1⟩
    else skipString rest

def skipKey (input : List UInt8) : Except Fault (List UInt8) :=
  match skipBlanks input with
  | [] => .error ⟨.eofInObject, 0⟩
  | b :: rest => do
    if b ≠ ascii '"' then .error ⟨.keyMustBeString, rest.length⟩
    let rest ← skipString rest
    colon rest

/-- Passes over what stands before the next value, closing containers that end: `stack` holds those
that are open, the innermost first. Gives nothing when the last one has ended. After a value, a
comma must come before the next one. -/
def skipToValue (afterValue : Bool) (stack : List Bracket) (input : List UInt8) :
    Except Fault (Option (List Bracket) × List UInt8) :=
  match stack with
  | [] => .ok (none, input)
  | bracket :: outer =>
    match skipBlanks input with
    | [] =>
      .error ⟨match bracket with | .list => .eofInList | .object => .eofInObject, 0⟩
    | b :: rest =>
      if b = bracket.closing then skipToValue true outer rest
      else do
        let start ←
          if !afterValue then Except.ok (b :: rest)
          else if b = ascii ',' then .ok rest
          else
            .error
              ⟨match bracket with
                | .list => .expectedListCommaOrEnd
                | .object => .expectedObjectCommaOrEnd, rest.length⟩
        match bracket with
        | .list => .ok (some stack, start)
        | .object => do
          let start ← skipKey start
          .ok (some stack, start)

/-- Passes over values until no container is open. Every value has a byte at least, so there are no
more of them than the bound. -/
def skipValues : (bound : Nat) → (stack : List Bracket) → Skipper
  | 0, _, _ => .error ⟨.eofInValue, 0⟩
  | bound + 1, stack, input => do
    let (stack, afterValue, rest) ←
      match skipBlanks input with
      | [] => Except.error ⟨.eofInValue, 0⟩
      | b :: rest =>
        let scalar (skipped : Except Fault (List UInt8)) :
            Except Fault (List Bracket × Bool × List UInt8) :=
          skipped.map fun rest => (stack, true, rest)
        if b = ascii 'n' then scalar (ident "ull".toList rest)
        else if b = ascii 't' then scalar (ident "rue".toList rest)
        else if b = ascii 'f' then scalar (ident "alse".toList rest)
        else if b = ascii '-' then scalar (skipNumber rest)
        else if isDigit b then scalar (skipNumber (b :: rest))
        else if b = ascii '"' then scalar (skipString rest)
        else if b = ascii '[' then .ok (Bracket.list :: stack, false, rest)
        else if b = ascii '{' then .ok (Bracket.object :: stack, false, rest)
        else .error ⟨.expectedValue, rest.length⟩
    match ← skipToValue afterValue stack rest with
    | (none, rest) => .ok rest
    | (some stack, rest) => skipValues bound stack rest

def skipValue (input : List UInt8) : Except Fault (List UInt8) :=
  skipValues (input.length + 1) [] input

end EnvTemplate.Json.Reader
