/- The contents of YAML documents: scalars by the core schema, aliases replaced by what they stand
for. Nesting is limited, and so is the number of aliases met on the way. -/
import CertAudit.Yaml.Node
import CertAudit.Yaml.Scalar
import CertAudit.Yaml.Token.Stream
namespace CertAudit.Yaml

/-- What a node holds. The tag of a content is one of the document's own. -/
inductive Content
  | null
  | bool (b : Bool)
  | integer (i : Int)
  | real (x : Binary64)
  | text (s : String)
  | sequence (items : List Content)
  | mapping (entries : List (Content × Content))
  | tagged (tag : String) (content : Content)
deriving Repr, Inhabited

namespace Content

mutual

/-- Whether two contents are the same key. Entries of mappings may stand in any order, and what is
no number is the same as itself. -/
def same : Content → Content → Bool
  | .null, .null => true
  | .bool a, .bool b => a == b
  | .integer a, .integer b => a == b
  | .real a, .real b => a.equal b || (a == .nan && b == .nan)
  | .text a, .text b => a == b
  | .sequence a, .sequence b => sameItems a b
  | .mapping a, .mapping b => a.length == b.length && isWithin a b
  | .tagged s a, .tagged t b => s == t && same a b
  | _, _ => false

/-- Whether two lists are the same item by item. -/
def sameItems : List Content → List Content → Bool
  | [], [] => true
  | a :: as, b :: bs => same a b && sameItems as bs
  | _, _ => false

/-- Whether all entries are among some others. -/
def isWithin : List (Content × Content) → List (Content × Content) → Bool
  | [], _ => true
  | (k, v) :: rest, others => others.any (fun e => same k e.1 && same v e.2) && isWithin rest others

end

/-- The content of a plain text. -/
def ofPlain? (s : String) : Option Content :=
  match Scalar.ofText s with
  | .null => some .null
  | .bool b => some (.bool b)
  | .integer i => some (.integer i)
  | .large => none
  | .real x => some (.real x)
  | .text => some (.text s)

/-- A tag of the core schema. -/
def coreTag (name : String) : Bytes := Bytes.ofString ("tag:yaml.org,2002:" ++ name)

/-- The content of a text with a tag that is not the document's own. -/
def ofTagged? (tag : Bytes) (s : String) : Option Content :=
  if tag = coreTag "bool" then
    match Scalar.ofText s with
    | .bool b => some (.bool b)
    | _ => none
  else if tag = coreTag "int" then
    match (Scalar.integer? s.toList).bind Scalar.ofInt? with
    | some (.integer i) => some (.integer i)
    | _ => none
  else if tag = coreTag "float" then (Scalar.real? s).map .real
  else if tag = coreTag "null" then
    if s ≠ "" ∧ Scalar.ofText s = .null then some .null else none
  else some (.text s)

/-- A tag without the exclamation mark in front of it, unless it is nothing else. -/
def unmarked : Bytes → Bytes
  | [0x21] => [0x21]
  | 0x21 :: rest => rest
  | tag => tag

/-- The name of a tag that is the document's own: one that an exclamation mark begins and that
spells a text. A second mark is no part of the name. -/
def localTag? (tag : Option Bytes) : Option String :=
  (tag.filter (·.head? == some 0x21)).bind fun t => Bytes.toString? (unmarked (unmarked t))

/-- The content of a scalar. -/
def ofScalar? (tag : Option Bytes) (plain : Bool) (s : String) : Option Content :=
  let untagged := if plain then ofPlain? s else some (.text s)
  match localTag? tag, tag with
  | some name, _ => untagged.map (.tagged name)
  | none, some t => if t.head? == some 0x21 then untagged else ofTagged? t s
  | none, none => untagged

/-- A collection with a tag of the document's own, if it has one. -/
def withTag (tag : Option Bytes) (c : Content) : Content :=
  match localTag? tag with
  | some name => .tagged name c
  | none => c

/-- The nodes that anchors are on, in the order in which they begin. -/
abbrev Anchors := List (Nat × Node)

mutual

/-- Adds the nodes with anchors in a node, the last one in front. -/
def anchorsOf (found : Anchors) : Node → Anchors
  | .alias _ => found
  | .scalar anchor tag plain s => noteAnchor anchor (.scalar anchor tag plain s) found
  | .sequence anchor tag items =>
    anchorsOfItems (noteAnchor anchor (.sequence anchor tag items) found) items
  | .mapping anchor tag entries =>
    anchorsOfEntries (noteAnchor anchor (.mapping anchor tag entries) found) entries
where
  /-- Adds a node if it has an anchor. -/
  noteAnchor (anchor : Option Nat) (n : Node) (found : Anchors) : Anchors :=
    match anchor with
    | some id => (id, n) :: found
    | none => found

/-- Adds the nodes with anchors in some nodes. -/
def anchorsOfItems (found : Anchors) : List Node → Anchors
  | [] => found
  | n :: rest => anchorsOfItems (anchorsOf found n) rest

/-- Adds the nodes with anchors in some entries. -/
def anchorsOfEntries (found : Anchors) : List (Node × Node) → Anchors
  | [] => found
  | (k, v) :: rest => anchorsOfEntries (anchorsOf (anchorsOf found k) v) rest

end

mutual

/-- The number of places where a node, or a part of it, begins or ends. -/
def eventCount : Node → Nat
  | .alias _ => 1
  | .scalar .. => 1
  | .sequence _ _ items => 2 + itemsCount items
  | .mapping _ _ entries => 2 + entriesCount entries

/-- The number of such places in some nodes. -/
def itemsCount : List Node → Nat
  | [] => 0
  | n :: rest => eventCount n + itemsCount rest

/-- The number of such places in some entries. -/
def entriesCount : List (Node × Node) → Nat
  | [] => 0
  | (k, v) :: rest => eventCount k + eventCount v + entriesCount rest

end

/-- Making a content, with the number of aliases that may still be met. -/
abbrev Making := StateT Nat Option

/-- The node that a node stands for. -/
def follow (anchors : Anchors) : Node → Making Node
  | .alias id => do
    match ← get with
    | 0 => failure
    | n + 1 =>
      set n
      match anchors.lookup id with
      | some node => return node
      | none => failure
  | node => return node

/-- Adds an entry whose key must be new. The entries so far are in reverse. -/
def addEntry (key : Making Content) (value : Making Content) (entries : List (Content × Content)) :
    Making (List (Content × Content)) := do
  let k ← key
  if entries.any fun e => same e.1 k then failure
  else
    let v ← value
    return (k, v) :: entries

/-- The content of a node with at most `depth` levels of nesting. -/
def make (anchors : Anchors) : Nat → Node → Making Content
  | depth, node => do
    match ← follow anchors node, depth with
    | .scalar _ tag plain s, _ =>
      match ofScalar? tag plain s with
      | some c => return c
      | none => failure
    | .sequence _ tag items, depth + 1 =>
      return withTag tag (.sequence (← items.mapM (make anchors depth)))
    | .mapping _ tag entries, depth + 1 =>
      let made ← entries.foldlM
        (fun made e => addEntry (make anchors depth e.1) (make anchors depth e.2) made) []
      return withTag tag (.mapping made.reverse)
    | _, _ => failure

/-- The limit of nesting. -/
def maxDepth : Nat := 128

/-- The content of a document. -/
def ofNode? (node : Node) : Option Content :=
  ((make (anchorsOf [] node) maxDepth node).run (100 * eventCount node)).map (·.1)

end Content

/-- The contents of the documents of a text. -/
def contents? (text : String) : Option (List Content) := do
  let tokens ← Token.ofText? text
  let nodes ← Node.documents? tokens
  nodes.mapM Content.ofNode?

end CertAudit.Yaml
