import Inspection.Yaml.Token

/-!
# Yaml — Nodes

A document is a tree of scalars, sequences and mappings.  A node may carry an anchor and a tag; an
alias stands for the last node of the tree that carries its anchor, and may so stand for a node
around itself.
-/

namespace Inspection.Yaml

/-- What may stand before a node. -/
structure Properties where
  anchor : Option Nat := none
  /-- The octets of the tag, none of which is zero. -/
  tag : Option (List UInt8) := none

/-- A node of a document. -/
inductive Node where
  | alias (anchor : Nat)
  | scalar (properties : Properties) (text : String) (style : ScalarStyle)
  | sequence (properties : Properties) (items : List Node)
  | mapping (properties : Properties) (entries : List (Node × Node))

namespace Node

/-- The node that stands where nothing is written. -/
def empty : Node := .scalar {} "" .plain

/-- What stands before the node. -/
def properties : Node → Properties
  | .alias _ => {}
  | .scalar p _ _ | .sequence p _ | .mapping p _ => p

mutual

/-- How many events the node makes: one for a scalar or alias, two more than its content for a
collection. -/
def eventCount : Node → Nat
  | .alias _ | .scalar .. => 1
  | .sequence _ items => 2 + eventCounts items
  | .mapping _ entries => 2 + entryEventCounts entries

/-- The events of the items of a sequence. -/
def eventCounts : List Node → Nat
  | [] => 0
  | n :: rest => eventCount n + eventCounts rest

/-- The events of the entries of a mapping. -/
def entryEventCounts : List (Node × Node) → Nat
  | [] => 0
  | (k, v) :: rest => eventCount k + eventCount v + entryEventCounts rest

end

mutual

/-- The nodes that carry an anchor, in the order of the text. -/
def anchored : Node → List (Nat × Node)
  | .alias _ => []
  | n@(.scalar p ..) => (p.anchor.map (·, n)).toList
  | n@(.sequence p items) => (p.anchor.map (·, n)).toList ++ anchoredItems items
  | n@(.mapping p entries) => (p.anchor.map (·, n)).toList ++ anchoredEntries entries

/-- Those among the items of a sequence. -/
def anchoredItems : List Node → List (Nat × Node)
  | [] => []
  | n :: rest => anchored n ++ anchoredItems rest

/-- Those among the entries of a mapping. -/
def anchoredEntries : List (Node × Node) → List (Nat × Node)
  | [] => []
  | (k, v) :: rest => anchored k ++ anchored v ++ anchoredEntries rest

end

end Node

end Inspection.Yaml
