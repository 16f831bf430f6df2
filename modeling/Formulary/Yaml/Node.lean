import Formulary.Yaml.Token

/-!
# Nodes of a document

A node may carry an anchor, which an alias elsewhere stands for, and a tag. Anchors are numbered.
-/

namespace Formulary.Yaml

structure Properties where
  /-- The number of the anchor. -/
  anchor : Option Nat := none
  tag : Option (List Char) := none
  deriving DecidableEq

inductive Node where
  | alias (anchor : Nat)
  | scalar (properties : Properties) (text : List Char) (plain : Bool)
  | sequence (properties : Properties) (items : List Node)
  | mapping (properties : Properties) (pairs : List (Node × Node))

namespace Node

/-- The node where nothing stands. -/
def empty : Node := .scalar {} [] true

def properties : Node → Properties
  | .alias _ => {}
  | .scalar p .. | .sequence p _ | .mapping p _ => p

mutual

/-- How many events a reader of the node meets: its scalars and aliases, and the starts and ends of
its collections. -/
def events : Node → Nat
  | .alias _ | .scalar .. => 1
  | .sequence _ items => 2 + eventsOfItems items
  | .mapping _ pairs => 2 + eventsOfPairs pairs

def eventsOfItems : List Node → Nat
  | [] => 0
  | n :: items => n.events + eventsOfItems items

def eventsOfPairs : List (Node × Node) → Nat
  | [] => 0
  | (k, v) :: pairs => k.events + v.events + eventsOfPairs pairs

end

mutual

/-- The anchored nodes with their numbers, in the order in which they start. -/
def anchored (n : Node) : List (Nat × Node) :=
  let own := match n.properties.anchor with
    | some a => [(a, n)]
    | none => []
  match n with
  | .alias _ | .scalar .. => own
  | .sequence _ items => own ++ anchoredItems items
  | .mapping _ pairs => own ++ anchoredPairs pairs

def anchoredItems : List Node → List (Nat × Node)
  | [] => []
  | n :: items => n.anchored ++ anchoredItems items

def anchoredPairs : List (Node × Node) → List (Nat × Node)
  | [] => []
  | (k, v) :: pairs => k.anchored ++ v.anchored ++ anchoredPairs pairs

end

end Node

end Formulary.Yaml
