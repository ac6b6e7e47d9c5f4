import AccessPolicy.Yaml.Token
import AccessPolicy.Yaml.Resolve
/-!
# YAML nodes

A document is a tree of nodes: scalars, sequences, mappings, and aliases that stand for a node
marked earlier with an anchor. Every node keeps its tag and the line it starts on (from one),
which messages about it name.
-/

namespace AccessPolicy.Yaml

inductive Node where
  | scalar (text tag : String) (style : ScalarStyle) (line : Nat)
  | sequence (items : List Node) (tag : String) (line : Nat)
  | mapping (entries : List (Node × Node)) (tag : String) (line : Nat)
  | aliasRef (name : String) (target : Option Node) (line : Nat)
  deriving Repr, Inhabited

namespace Node

def line : Node → Nat
  | .scalar _ _ _ l | .sequence _ _ l | .mapping _ _ l | .aliasRef _ _ l => l

def text : Node → String
  | .scalar t _ _ _ => t
  | .aliasRef n _ _ => n
  | _ => ""

def tag : Node → String
  | .scalar _ t _ _ | .sequence _ t _ | .mapping _ t _ => t
  | .aliasRef .. => ""

def isIndicatedString : Node → Bool
  | .scalar _ t style _ =>
    shortTag t = "!!str" ∨ ((t = "" ∨ t = "!") ∧ style ≠ .plain)
  | _ => false

def shortTagOf : Node → String
  | .scalar t tag style l =>
    if isIndicatedString (.scalar t tag style l) then "!!str"
    else if tag = "" ∨ tag = "!" then plainTag t
    else shortTag tag
  | .sequence _ tag _ => if tag = "" ∨ tag = "!" then "!!seq" else shortTag tag
  | .mapping _ tag _ => if tag = "" ∨ tag = "!" then "!!map" else shortTag tag
  | .aliasRef _ (some n) _ => n.shortTagOf
  | .aliasRef _ none _ => ""

def sameKind : Node → Node → Bool
  | .scalar .., .scalar .. | .sequence .., .sequence .. | .mapping .., .mapping ..
  | .aliasRef .., .aliasRef .. => true
  | _, _ => false

end Node

end AccessPolicy.Yaml
