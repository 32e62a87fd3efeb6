/- Trees of named nodes with values, and dotted paths into them. -/
import CertAudit.Table
import CertAudit.Value
import CertAudit.Text.Split
namespace CertAudit

/-- A node: a name, perhaps a value, and a table of children by key. -/
inductive Node
  | mk (name : String) (value : Option Value) (children : List (String × Node))
deriving Inhabited

namespace Node

/-- The name of a node. -/
def name : Node → String
  | .mk n _ _ => n

/-- The value of a node. -/
def value : Node → Option Value
  | .mk _ v _ => v

/-- The children of a node. -/
def children : Node → List (String × Node)
  | .mk _ _ cs => cs

/-- A node with a name alone. -/
def new (name : String) : Node := .mk name none []

/-- A node with a value and no children. -/
def leaf (name : String) (v : Value) : Node := .mk name (some v) []

/-- The child with a key. -/
def child? (n : Node) (key : String) : Option Node := n.children.lookup key

/-- Puts a child under a key. -/
def setChild (n : Node) (key : String) (c : Node) : Node :=
  .mk n.name n.value (Table.insert key c n.children)

/-- Puts a child under its own name. -/
def insert (n c : Node) : Node := n.setChild c.name c

/-- Puts children under their own names, one after another. -/
def withChildren (n : Node) (cs : List Node) : Node := cs.foldl insert n

/-- Gives a node the value of another one, if that has a value, and its children. -/
def overlay (n other : Node) : Node :=
  .mk n.name (other.value.or n.value) (Table.overlay other.children n.children)

/-- The parts of a path between its points. A path has at least one. -/
def segments (path : String) : List String :=
  (CharList.split '.' path.toList).map String.ofList

/-- Overlays the node below the given keys, with new nodes where none is. -/
def insertAt : List String → Node → Node → Node
  | [], other, n => n.overlay other
  | key :: rest, other, n =>
    n.setChild key (insertAt rest other ((n.child? key).getD (new key)))

/-- Overlays the node at a path. -/
def insertPath (n : Node) (path : String) (other : Node) : Node :=
  insertAt (segments path) other n

/-- The node below the given keys. -/
def descend? : List String → Node → Option Node
  | [], n => some n
  | key :: rest, n => (n.child? key).bind (descend? rest)

/-- The node at a path; the empty path is that of the node itself. -/
def resolve? (n : Node) (path : String) : Option Node :=
  if path = "" then some n else descend? (segments path) n

/-- The truth value of the child that tells whether an extension is critical. -/
def critical? (n : Node) : Option Bool :=
  (n.child? "critical").bind fun c => c.value.bind Value.bool?

/-- The path of a child below the path of its parent. -/
def childPath (parent key : String) : String := if parent = "" then key else parent ++ "." ++ key

mutual

/-- All nodes below one, each with its path, a node before its children. -/
def walkFrom (path : String) : Node → List (String × Node)
  | .mk _ _ cs => walkChildren path cs

/-- The nodes of a table of children and below them. -/
def walkChildren (path : String) : List (String × Node) → List (String × Node)
  | [] => []
  | (key, c) :: rest =>
    (childPath path key, c) :: (walkFrom (childPath path key) c ++ walkChildren path rest)

end

/-- All nodes below the root, each with its path. -/
def walk (n : Node) : List (String × Node) := walkFrom "" n

/-- The line of a node: its path, and its value if it has one. -/
def line (entry : String × Node) : String :=
  match entry.2.value with
  | some v => entry.1 ++ " = " ++ v.display ++ "\n"
  | none => entry.1 ++ "\n"

/-- A line for every node below the root whose path is not empty. -/
def display (n : Node) : String :=
  String.join ((n.walk.filter fun e => e.1 ≠ "").map line)

mutual

/-- Whether two nodes are equal in names, values and children. -/
def same : Node → Node → Bool
  | .mk n v cs, .mk m w ds =>
    n == m && sameChildren cs ds &&
      match v, w with
      | some a, some b => a.same b
      | none, none => true
      | _, _ => false

/-- Whether two tables of children are equal. -/
def sameChildren : List (String × Node) → List (String × Node) → Bool
  | [], [] => true
  | (k, c) :: cs, (l, d) :: ds => k == l && same c d && sameChildren cs ds
  | _, _ => false

end

mutual

/-- A node as a document, without its name. -/
def toJson : Node → Json
  | .mk _ v cs =>
    .object ((v.map fun v => ("value", v.toJson)).toList ++
      match cs with
      | [] => []
      | c :: rest => [("children", .object (childrenToJson (c :: rest)))])

/-- Children as members of a document. -/
def childrenToJson : List (String × Node) → List (String × Json)
  | [] => []
  | (key, c) :: rest => (key, toJson c) :: childrenToJson rest

end

end Node
end CertAudit
