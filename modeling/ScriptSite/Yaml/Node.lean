import ScriptSite.Yaml.Kind
import ScriptSite.Yaml.Mark

/-!
# Nodes

The nodes of a document are numbered, and refer to each other by their numbers, because a node can
stand at several places and even inside itself.
-/

namespace ScriptSite.Yaml

/-- The number of a node. -/
abbrev NodeId := Nat

/-- What a node holds. -/
inductive Content
  | scalar (text : Text)
  | sequence (items : List NodeId)
  | mapping (entries : List (NodeId × NodeId))
  deriving DecidableEq, Repr

/-- The word for what a node holds. -/
def Content.shown : Content → Text
  | .scalar _ => "scalar".toList
  | .sequence _ => "sequence".toList
  | .mapping _ => "mapping".toList

/-- A node: the kind of its value, the place where it begins, and what it holds. -/
structure Node where
  tag : Text
  start : Mark
  content : Content
  deriving DecidableEq, Repr

/-- The nodes of a document in the order of their numbers. -/
abbrev Nodes := Array Node

namespace Nodes

def at? (nodes : Nodes) (id : NodeId) : Option Node :=
  nodes[id]?

/-- The nodes with what one of them holds replaced. -/
def setContent (nodes : Nodes) (id : NodeId) (content : Content) : Nodes :=
  nodes.modify id fun node => { node with content }

/-- The nodes with the kind of one of them replaced. -/
def setTag (nodes : Nodes) (id : NodeId) (tag : Text) : Nodes :=
  nodes.modify id fun node => { node with tag }

end Nodes

/-- The nodes of a document, and the one that holds all others; an empty text has none. -/
structure Document where
  nodes : Nodes
  root : Option NodeId
  deriving Repr

end ScriptSite.Yaml
