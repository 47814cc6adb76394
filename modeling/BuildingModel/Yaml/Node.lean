/-!
# YAML nodes

The nodes of a document: scalars with the style in which they are written, sequences and mappings,
each with its tag if it has one. Aliases stand for the nodes that they name.
-/
namespace BuildingModel.Yaml

inductive ScalarStyle
  | plain
  | quoted
  | literal
  | folded
  deriving DecidableEq, Repr

inductive Node
  | scalar (tag : Option String) (style : ScalarStyle) (text : String)
  | sequence (tag : Option String) (elements : List Node)
  | mapping (tag : Option String) (members : List (Node × Node))
  deriving Inhabited

namespace Node

def empty : Node := .scalar none .plain ""

def tag? : Node → Option String
  | .scalar tag _ _ => tag
  | .sequence tag _ => tag
  | .mapping tag _ => tag

def withTag (tag : Option String) : Node → Node
  | .scalar _ style text => .scalar tag style text
  | .sequence _ elements => .sequence tag elements
  | .mapping _ members => .mapping tag members

end Node

end BuildingModel.Yaml
