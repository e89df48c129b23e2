import ApiTypes.Yaml.Token

/-!
# Nodes of a YAML document

The tree of a document. An alias refers to a node by the number of its anchor. Each anchor gets
the number of names in use before it, so that two anchors can share a number if a name is used
again; an alias then stands for the last node with its number.

## Main definitions

* `Yaml.Node` — scalars, collections and aliases
* `Yaml.Node.anchored` — the nodes that carry an anchor
* `Yaml.Node.size` — the number of scalars, aliases, and ends of collections
-/

namespace ApiTypes.Yaml

/-- What is written in front of a node: its tag, and the number of its anchor. -/
structure Properties where
  tag : Option String := none
  anchor : Option Nat := none
deriving DecidableEq, Repr

/-- A node of a document. -/
inductive Node where
  | scalar (properties : Properties) (style : Style) (text : String)
  | sequence (properties : Properties) (items : List Node)
  | mapping (properties : Properties) (entries : List (Node × Node))
  | aliasOf (anchor : Nat)
deriving Repr, Inhabited

namespace Node

/-- The scalar that stands for something left out. -/
def empty (properties : Properties) : Node := .scalar properties .plain ""

/-- The node as an entry for its anchor, if it carries one. -/
def entry (properties : Properties) (node : Node) : List (Nat × Node) :=
  match properties.anchor with
  | some n => [(n, node)]
  | none => []

mutual

/-- The nodes that carry an anchor, each before the nodes inside it, with their numbers. -/
def anchored : Node → List (Nat × Node)
  | scalar properties style text => entry properties (.scalar properties style text)
  | sequence properties items =>
    entry properties (.sequence properties items) ++ anchoredAll items
  | mapping properties entries =>
    entry properties (.mapping properties entries) ++ anchoredEntries entries
  | aliasOf _ => []

/-- The nodes that carry an anchor in a list. -/
def anchoredAll : List Node → List (Nat × Node)
  | [] => []
  | node :: rest => anchored node ++ anchoredAll rest

/-- The nodes that carry an anchor in the entries of a mapping. -/
def anchoredEntries : List (Node × Node) → List (Nat × Node)
  | [] => []
  | (key, value) :: rest => anchored key ++ anchored value ++ anchoredEntries rest

end

mutual

/-- The number of scalars and aliases, and of starts and ends of collections. -/
def size : Node → Nat
  | scalar _ _ _ | aliasOf _ => 1
  | sequence _ items => sizeAll items + 2
  | mapping _ entries => sizeEntries entries + 2

/-- The sizes of a list of nodes together. -/
def sizeAll : List Node → Nat
  | [] => 0
  | node :: rest => size node + sizeAll rest

/-- The sizes of the entries of a mapping together. -/
def sizeEntries : List (Node × Node) → Nat
  | [] => 0
  | (key, value) :: rest => size key + size value + sizeEntries rest

end

end Node

end ApiTypes.Yaml
