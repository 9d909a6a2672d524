import Transplant.Yaml.Tag
import Transplant.Yaml.Token.Lexer

/-!
# Graphs of nodes

A document as typed scalars, sequences and mappings, each with the place where it starts. A node may
be a part of several others and even of itself, so parts are given by their numbers.
-/

namespace Transplant.Yaml

/-- The number of a node. -/
abbrev NodeId := Nat

/-- What a node holds. -/
inductive Content where
  | scalar (s : Scalar)
  | sequence (items : List NodeId)
  | mapping (entries : List (NodeId × NodeId))
deriving Repr, Inhabited

/-- What messages call a node with a content. -/
def Content.kind : Content → String
  | .scalar _ => "scalar"
  | .sequence _ => "sequence"
  | .mapping _ => "mapping"

/-- A node of a document: its type, its content and where it starts. -/
structure Node where
  tag : Tag
  content : Content
  mark : Mark
deriving Repr, Inhabited

/-- The nodes of a document. -/
structure Graph where
  nodes : Array Node
deriving Repr

namespace Graph

/-- The number of nodes, which is the number of the next one. -/
def size (g : Graph) : Nat := g.nodes.size

/-- The node with a number. -/
def node (g : Graph) (id : NodeId) : Node := g.nodes.getD id default

/-- A graph with one more node. -/
def push (g : Graph) (n : Node) : Graph := ⟨g.nodes.push n⟩

/-- A graph in which a node has another content. -/
def setContent (g : Graph) (id : NodeId) (content : Content) : Graph :=
  ⟨g.nodes.modify id fun n => { n with content := content }⟩

/-- A graph in which a node has another type. -/
def setTag (g : Graph) (id : NodeId) (tag : Tag) : Graph :=
  ⟨g.nodes.modify id fun n => { n with tag := tag }⟩

/-- The entries of a mapping. -/
def entries (g : Graph) (id : NodeId) : List (NodeId × NodeId) :=
  match (g.node id).content with
  | .mapping es => es
  | _ => []

end Graph

end Transplant.Yaml
