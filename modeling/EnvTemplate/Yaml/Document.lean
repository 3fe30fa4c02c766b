import EnvTemplate.Yaml.Node
import EnvTemplate.Yaml.Tokens
/-! The document that tokens spell. Readers share a bound on how deep their calls may go, which is never
reached: between two calls without a token between them stands one with a token. -/
namespace EnvTemplate.Yaml

/-- What is left of the tokens, and what has been met before. -/
structure Reading where
  tokens : List Token
  anchors : Anchors := {}
  /-- What each handle of a tag stands for. -/
  handles : List (List Char × List UInt8) := []

abbrev Reader := StateT Reading Option

namespace Reader

def next? : Reader (Option Token) := do
  return (← get).tokens.head?

def skip : Reader Unit :=
  modify fun r => { r with tokens := r.tokens.drop 1 }

def nextIsIn (tokens : List Token) : Reader Bool := do
  return (← next?).any tokens.contains

def expect (token : Token) : Reader Unit := do
  if ← nextIsIn [token] then skip else failure

/-! Properties of nodes. -/

def anchor? : Reader (Option (List Char)) := do
  match ← next? with
  | some (.anchor name) => skip; return some name
  | _ => return none

def tag? : Reader (Option (List UInt8)) := do
  match ← next? with
  | some (.tag ⟨[], suffix⟩) => skip; return some suffix
  | some (.tag ⟨handle, suffix⟩) => do
    skip
    let beginning ← ((← get).handles.lookup handle : Option (List UInt8))
    return some (beginning ++ suffix)
  | _ => return none

/-- Reads an anchor and a tag in any order, each at most once. -/
def properties : Reader (Option (List Char) × Option (List UInt8)) := do
  match ← anchor? with
  | some name => return (some name, ← tag?)
  | none =>
    match ← tag? with
    | some tag => return (← anchor?, some tag)
    | none => return (none, none)

/-- A tag of only an exclamation mark leaves a scalar without tag. -/
def scalarTag (tag : Option (List UInt8)) : Option (List UInt8) :=
  if tag = some (utf8 "!") then none else tag

/-! Nodes and the members of collections. -/

mutual

/-- Reads a node. Only in a `block` may it be a block collection; a sequence that is a value in a
mapping needs no indentation. -/
def node (block unindented : Bool) : (bound : Nat) → Reader Node
  | 0 => failure
  | bound + 1 => do
    match ← next? with
    | some (.alias name) => do
      skip
      let number ← ((← get).anchors.number? name : Option Nat)
      return .alias number
    | _ => do
      let (anchor, tag) ← properties
      match anchor with
      | none => content block unindented false tag bound
      | some name => do
        let anchors := (← get).anchors
        modify fun r => { r with anchors := anchors.start name }
        let node ← content block unindented true tag bound
        modify fun r =>
          { r with anchors := r.anchors.finish ⟨anchors.nextNumber, anchors.begun, node⟩ }
        return node

/-- Reads a node after its properties. With properties it may be left out. -/
def content (block unindented anchored : Bool) (tag : Option (List UInt8)) :
    (bound : Nat) → Reader Node
  | 0 => failure
  | bound + 1 => do
    match ← next? with
    | some (.scalar style text) => skip; return .scalar (scalarTag tag) style text
    | some .flowSequenceStart => skip; return .sequence tag (← flowItems true bound)
    | some .flowMappingStart => skip; return .mapping tag (← flowEntries true bound)
    | some .blockSequenceStart =>
      if block then do skip; return .sequence tag (← blockItems bound) else omitted
    | some .blockMappingStart =>
      if block then do skip; return .mapping tag (← blockEntries bound) else omitted
    | some .blockEntry =>
      if unindented then return .sequence tag (← unindentedItems bound) else omitted
    | _ => omitted
where
  omitted : Reader Node :=
    if anchored || tag.isSome then return .scalar tag .plain [] else failure

def nodeUnless (tokens : List Token) (block unindented : Bool) : (bound : Nat) → Reader Node
  | 0 => failure
  | bound + 1 => do
    if ← nextIsIn tokens then return .empty else node block unindented bound

/-- Reads the value of a key, which may be left out together with its colon. -/
def valueUnless (tokens : List Token) (block : Bool) : (bound : Nat) → Reader Node
  | 0 => failure
  | bound + 1 => do
    if ← nextIsIn [.value] then do
      skip
      nodeUnless tokens block block bound
    else return .empty

def blockItems : (bound : Nat) → Reader (List Node)
  | 0 => failure
  | bound + 1 => do
    match ← next? with
    | some .blockEntry => do
      skip
      let item ← nodeUnless [.blockEntry, .blockEnd] true false bound
      return item :: (← blockItems bound)
    | some .blockEnd => skip; return []
    | _ => failure

def unindentedItems : (bound : Nat) → Reader (List Node)
  | 0 => failure
  | bound + 1 => do
    if ← nextIsIn [.blockEntry] then do
      skip
      let item ← nodeUnless [.blockEntry, .key, .value, .blockEnd] true false bound
      return item :: (← unindentedItems bound)
    else return []

def blockEntries : (bound : Nat) → Reader (List (Node × Node))
  | 0 => failure
  | bound + 1 => do
    match ← next? with
    | some .key => do
      skip
      let key ← nodeUnless [.key, .value, .blockEnd] true true bound
      let value ← valueUnless [.key, .value, .blockEnd] true bound
      return (key, value) :: (← blockEntries bound)
    | some .blockEnd => skip; return []
    | _ => failure

/-- Reads the items of a sequence between brackets. A key makes an item that is a mapping of one
entry. -/
def flowItems (first : Bool) : (bound : Nat) → Reader (List Node)
  | 0 => failure
  | bound + 1 => do
    if ← nextIsIn [.flowSequenceEnd] then do skip; return []
    else do
      unless first do expect .flowEntry
      match ← next? with
      | some .flowSequenceEnd => skip; return []
      | some .key => do
        skip
        let key ← pairKey bound
        let value ← valueUnless [.flowEntry, .flowSequenceEnd] false bound
        return .mapping none [(key, value)] :: (← flowItems false bound)
      | _ => do
        let item ← node false false bound
        return item :: (← flowItems false bound)

/-- Reads the key of an item that is a mapping. A key that is left out takes the next token with it. -/
def pairKey : (bound : Nat) → Reader Node
  | 0 => failure
  | bound + 1 => do
    if ← nextIsIn [.value, .flowEntry, .flowSequenceEnd] then do skip; return .empty
    else node false false bound

/-- Reads the entries of a mapping between braces. A node without a colon is a key without value. -/
def flowEntries (first : Bool) : (bound : Nat) → Reader (List (Node × Node))
  | 0 => failure
  | bound + 1 => do
    if ← nextIsIn [.flowMappingEnd] then do skip; return []
    else do
      unless first do expect .flowEntry
      match ← next? with
      | some .flowMappingEnd => skip; return []
      | some .key => do
        skip
        let key ← nodeUnless [.value, .flowEntry, .flowMappingEnd] false false bound
        let value ← valueUnless [.flowEntry, .flowMappingEnd] false bound
        return (key, value) :: (← flowEntries false bound)
      | _ => do
        let key ← node false false bound
        return (key, .empty) :: (← flowEntries false bound)

end

/-! Documents. -/

/-- The handles that every document knows. -/
def defaultHandles : List (List Char × List UInt8) :=
  [(['!'], utf8 "!"), (['!', '!'], utf8 "tag:yaml.org,2002:")]

/-- Reads directives: at most one version, which is 1.1 or 1.2, and each handle at most once. -/
def directives (versioned : Bool) : (bound : Nat) → Reader Unit
  | 0 => failure
  | bound + 1 => do
    match ← next? with
    | some (.versionDirective major minor) =>
      if versioned ∨ major ≠ 1 ∨ (minor ≠ 1 ∧ minor ≠ 2) then failure
      else do skip; directives true bound
    | some (.tagDirective handle beginning) => do
      if ((← get).handles.lookup handle).isSome then failure
      else do
        skip
        modify fun r => { r with handles := r.handles ++ [(handle, beginning)] }
        directives versioned bound
    | _ => modify fun r => { r with handles := r.handles ++ defaultHandles }

def isDirective : Token → Bool
  | .versionDirective .. | .tagDirective .. => true
  | _ => false

def root (bound : Nat) : Reader Node := do
  match ← next? with
  | none => return .empty
  | some token =>
    let announced := isDirective token || token == .documentStart
    directives false bound
    if announced then do
      expect .documentStart
      if (← next?).all fun t => isDirective t || t == .documentStart || t == .documentEnd then
        return .empty
    node true false bound

def document (bound : Nat) : Reader Document := do
  let root ← root bound
  let r ← get
  if r.tokens.all (· == .documentEnd) then return ⟨root, r.anchors⟩ else failure

end Reader

/-- The document that bytes spell. No call goes deeper than five for each token and five more. -/
def Document.ofBytes? (bytes : List UInt8) : Option Document := do
  let tokens ← tokens? (← characters? bytes)
  (Reader.document (5 * tokens.length + 5)).run' { tokens }

end EnvTemplate.Yaml
