import Groundwork.Yaml.Token

/-!
# Documents

A document is a tree of scalars, sequences and mappings.  A node may be anchored, and an alias
stands for an anchored node.  Aliases refer to slots: a slot stands for the last node that was
anchored in it, so a node may even contain an alias of itself.
-/

namespace Groundwork.Yaml

/-- A node of a document. -/
inductive Node where
  | scalar (tag : Option String) (text : String) (style : ScalarStyle)
  | sequence (tag : Option String) (items : List Node)
  | mapping (tag : Option String) (entries : List (Node × Node))
  | alias (slot : Nat)
  deriving Inhabited

namespace Node

/-- The scalar that stands where nothing is written. -/
def empty : Node := .scalar none "" .plain

mutual

/-- The number of starts, ends, scalars and aliases in a node. -/
def weight : Node → Nat
  | .scalar _ _ _ => 1
  | .alias _ => 1
  | .sequence _ items => 2 + itemsWeight items
  | .mapping _ entries => 2 + entriesWeight entries

/-- The weight of several nodes. -/
def itemsWeight : List Node → Nat
  | [] => 0
  | item :: rest => item.weight + itemsWeight rest

/-- The weight of several pairs of nodes. -/
def entriesWeight : List (Node × Node) → Nat
  | [] => 0
  | (k, v) :: rest => k.weight + v.weight + entriesWeight rest

end

end Node

/-- A document: its root, if the text holds a document at all, and the nodes in the slots. -/
structure Document where
  root : Option Node
  slots : List (Nat × Node)

/-- The node in a slot. -/
def Document.slot? (d : Document) (slot : Nat) : Option Node :=
  (d.slots.find? fun entry => entry.1 = slot).map Prod.snd

end Groundwork.Yaml
