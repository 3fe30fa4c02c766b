import EnvTemplate.Entries
import EnvTemplate.Yaml.Token
/-! The nodes of a YAML document, and the nodes that its aliases stand for. -/
namespace EnvTemplate.Yaml

inductive Node
  | scalar (tag : Option (List UInt8)) (style : ScalarStyle) (text : List Char)
  | sequence (tag : Option (List UInt8)) (items : List Node)
  | mapping (tag : Option (List UInt8)) (entries : List (Node × Node))
  | alias (number : Nat)
deriving Inhabited

namespace Node

def empty : Node :=
  .scalar none .plain []

mutual

/-- The number of marks that a node is told by: one for a scalar or an alias, and two for a collection
beside those of its members. -/
def size : Node → Nat
  | .scalar .. | .alias _ => 1
  | .sequence _ items => 2 + itemsSize items
  | .mapping _ entries => 2 + entriesSize entries

def itemsSize : List Node → Nat
  | [] => 0
  | item :: rest => size item + itemsSize rest

def entriesSize : List (Node × Node) → Nat
  | [] => 0
  | (key, value) :: rest => size key + size value + entriesSize rest

end

end Node

/-- A node with an anchor. Anchors are numbered by how many names were taken before them, so that a
name used twice can give two anchors one number; then the anchor that begins later counts. -/
structure Anchored where
  number : Nat
  /-- The number of anchors that begin before it. -/
  order : Nat
  node : Node

structure Anchors where
  /-- The number that each name stands for at present. -/
  numbers : Entries Nat := []
  /-- The number of anchors that have begun. -/
  begun : Nat := 0
  nodes : List Anchored := []

namespace Anchors

def nextNumber (a : Anchors) : Nat :=
  a.numbers.length

def start (a : Anchors) (name : List Char) : Anchors :=
  { a with numbers := a.numbers.insert (String.ofList name) a.nextNumber, begun := a.begun + 1 }

def finish (a : Anchors) (anchored : Anchored) : Anchors :=
  { a with nodes := anchored :: a.nodes }

def number? (a : Anchors) (name : List Char) : Option Nat :=
  a.numbers.get? (String.ofList name)

def node? (a : Anchors) (number : Nat) : Option Node :=
  (a.nodes.foldl later none).map Anchored.node
where
  later (best : Option Anchored) (next : Anchored) : Option Anchored :=
    if next.number ≠ number then best
    else
      match best with
      | some b => if b.order < next.order then some next else best
      | none => some next

end Anchors

/-- A document: its root and what its aliases stand for. -/
structure Document where
  root : Node
  anchors : Anchors

end EnvTemplate.Yaml
