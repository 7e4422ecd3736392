import IndexerTypes.Yaml.Token

/-! Documents as trees of nodes. Anchors are numbers; a reference leads to the node with its
number. -/

namespace IndexerTypes.Yaml

/-- What may stand in front of a node. -/
structure Properties where
  anchor : Option Nat
  tag : Option Tag
  deriving DecidableEq, Repr

inductive Node where
  | scalar (properties : Properties) (isPlain : Bool) (text : String)
  | sequence (properties : Properties) (items : List Node)
  | mapping (properties : Properties) (pairs : List (Node × Node))
  | reference (anchor : Nat)

namespace Node

/-- What stands where nothing is written. -/
def empty : Node := scalar ⟨none, none⟩ true ""

mutual

/-- The number of scalars and references, with collections counted twice. -/
def size : Node → Nat
  | scalar .. => 1
  | reference _ => 1
  | sequence _ items => sizeOfItems items + 2
  | mapping _ pairs => sizeOfPairs pairs + 2

def sizeOfItems : List Node → Nat
  | [] => 0
  | n :: rest => n.size + sizeOfItems rest

def sizeOfPairs : List (Node × Node) → Nat
  | [] => 0
  | (k, v) :: rest => k.size + v.size + sizeOfPairs rest

end

def entry (properties : Properties) (n : Node) : List (Nat × Node) :=
  match properties.anchor with
  | some anchor => [(anchor, n)]
  | none => []

mutual

/-- The nodes with anchors, in the order of the document. -/
def anchored : Node → List (Nat × Node)
  | scalar properties isPlain text => entry properties (scalar properties isPlain text)
  | reference _ => []
  | sequence properties items =>
    entry properties (sequence properties items) ++ anchoredItems items
  | mapping properties pairs =>
    entry properties (mapping properties pairs) ++ anchoredPairs pairs

def anchoredItems : List Node → List (Nat × Node)
  | [] => []
  | n :: rest => n.anchored ++ anchoredItems rest

def anchoredPairs : List (Node × Node) → List (Nat × Node)
  | [] => []
  | (k, v) :: rest => k.anchored ++ v.anchored ++ anchoredPairs rest

end

end Node

end IndexerTypes.Yaml
