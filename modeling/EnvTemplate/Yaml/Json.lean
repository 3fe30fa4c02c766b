import EnvTemplate.Json
import EnvTemplate.Yaml.Document
import EnvTemplate.Yaml.Literal
/-! The JSON document that a YAML document stands for. Collections may be nested 128 deep, and aliases
may be followed a hundred times as often as the document has marks. -/
namespace EnvTemplate.Yaml

/-- Reads tags by their full names. -/
def coreTag (name : String) : List UInt8 :=
  utf8 ("tag:yaml.org,2002:" ++ name)

/-- Whether a tag is local to the application, which JSON has no place for. -/
def isLocalTag (tag : Option (List UInt8)) : Bool :=
  tag.any fun bytes => bytes.head? == some (.ofNat '!'.toNat) && (Utf8.decode? bytes).isSome

def smallInteger? (n : Int) : Option Json :=
  if -Nat.pow 2 63 ≤ n ∧ n < Nat.pow 2 64 then some (.integer n) else none

def jsonOfFloat (x : Binary64) : Json :=
  if x.isFinite then .float x else .null

/-- What a plain scalar without tag stands for. An integer of more than 64 and at most 128 bits is
refused; beyond that it is a float. -/
def jsonOfPlain? (text : List Char) : Option Json :=
  let number : Json :=
    match if Literal.isZeroPadded text then none else Literal.float? text with
    | some x => jsonOfFloat x
    | none => .string (String.ofList text)
  if text.isEmpty || Literal.isNull text then some .null
  else
    match Literal.bool? text, Literal.integer? text with
    | some b, _ => some (.bool b)
    | none, some n => if -Nat.pow 2 127 ≤ n ∧ n < Nat.pow 2 128 then smallInteger? n else some number
    | none, none => some number

/-- What a scalar stands for. The tags of null, truth values, integers and floats require their kind;
with any other tag, and in quotes or a block, it is text. -/
def jsonOfScalar? (tag : Option (List UInt8)) (style : ScalarStyle) (text : List Char) :
    Option Json :=
  match tag with
  | none => if style = .plain then jsonOfPlain? text else some (.string (String.ofList text))
  | some t =>
    if t = coreTag "bool" then (Literal.bool? text).map .bool
    else if t = coreTag "int" then (Literal.integer? text).bind smallInteger?
    else if t = coreTag "float" then (Literal.float? text).map jsonOfFloat
    else if t = coreTag "null" then (if Literal.isNull text then some .null else none)
    else if t.head? = some (.ofNat '!'.toNat) ∧ style = .plain then jsonOfPlain? text
    else some (.string (String.ofList text))

namespace Document

/-- How many more aliases may be followed. -/
abbrev Following := StateT Nat Option

/-- The node itself, or the one that it is an alias of. -/
def target (d : Document) (node : Node) : Following Node := do
  match node with
  | .alias number =>
    match ← get with
    | 0 => failure
    | left + 1 =>
      set left
      (d.anchors.node? number : Option Node)
  | _ => return node

def scalarText (d : Document) (node : Node) : Following String := do
  match ← d.target node with
  | .scalar _ _ text => return String.ofList text
  | _ => failure

/-- The JSON document of a node, given how the nodes in a collection are read. -/
def jsonWith (d : Document) (inner? : Option (Node → Following Json)) (node : Node) :
    Following Json := do
  match ← d.target node with
  | .scalar tag style text =>
    if isLocalTag tag then failure else (jsonOfScalar? tag style text : Option Json)
  | .sequence tag items =>
    if isLocalTag tag then failure
    else
      let inner ← inner?
      return .array (← items.mapM inner)
  | .mapping tag entries =>
    if isLocalTag tag then failure
    else
      let inner ← inner?
      let members ← entries.mapM fun (key, value) => do
        return (← d.scalarText key, ← inner value)
      return .object (Entries.ofPairs members)
  | .alias _ => failure

/-- The JSON document of a node in which collections are nested at most so deep. -/
def jsonOfNode (d : Document) : (depth : Nat) → Node → Following Json
  | 0 => d.jsonWith none
  | depth + 1 => d.jsonWith (some (d.jsonOfNode depth))

def toJson? (d : Document) : Option Json :=
  (d.jsonOfNode 128 d.root).run' (100 * d.root.size)

end Document

def toJson? (bytes : List UInt8) : Option Json := do
  (← Document.ofBytes? bytes).toJson?

end EnvTemplate.Yaml
