/- Distinguished names and their one-line form. -/
import CertAudit.Der.Oid
import CertAudit.Identifiers
namespace CertAudit

/-- A distinguished name: attribute types with values in order, and the DER encoding the name was
read from, empty if it was not. -/
structure Name where
  attributes : List (String × String)
  encoding : Bytes := []
deriving Repr, DecidableEq, Inhabited

namespace Name

/-- A character of a value, behind a backslash where it could be taken for a separator. -/
def escape (c : Char) : List Char :=
  if c == '\\' || c == ',' || c == '=' then ['\\', c] else [c]

/-- One attribute, `CN = value`. -/
def attributeChars (a : String × String) : List Char :=
  a.1.toList ++ ' ' :: '=' :: ' ' :: a.2.toList.flatMap escape

/-- The attributes with a comma and a blank between them. -/
def oneLineChars : List (String × String) → List Char
  | [] => []
  | [a] => attributeChars a
  | a :: rest => attributeChars a ++ ',' :: ' ' :: oneLineChars rest

/-- The form `C = US, O = Org, CN = example.com`. -/
def oneLine (n : Name) : String := String.ofList (oneLineChars n.attributes)

/-- The first value of an attribute type. -/
def get? (n : Name) (key : String) : Option String := n.attributes.lookup key

/-- Whether the tag of a value promises readable text. -/
def isTextTag (tag : Nat) : Bool :=
  tag == Der.Tag.utf8String || tag == Der.Tag.printableString || tag == Der.Tag.ia5String ||
    tag == Der.Tag.numericString

/-- The text of a value, or a note that it has none. -/
def valueText (e : Der.Element) : String :=
  if isTextTag e.tag then (Bytes.toString? e.content).getD "<binary>" else "<binary>"

/-- Reads one attribute: its type and its value. -/
def readAttribute (bs : Bytes) : Option ((String × String) × Bytes) := do
  let (content, rest) ← Der.readContent Der.Tag.sequence bs
  let (oid, content) ← Oid.read content
  let (value, _) ← Der.read content
  some ((Identifiers.nameIn Identifiers.attributeNames (Oid.ofContent oid), valueText value), rest)

/-- Reads a set of one or more attributes. -/
def readAttributes (bs : Bytes) : Option (List (String × String) × Bytes) := do
  let (content, rest) ← Der.readContent Der.Tag.set bs
  match (Der.readMany readAttribute content).1 with
  | [] => none
  | attributes => some (attributes, rest)

/-- Reads a name. It ends before the first set that cannot be read. -/
def read (bs : Bytes) : Option (Name × Bytes) := do
  let (content, rest) ← Der.readContent Der.Tag.sequence bs
  let (sets, unread) := Der.readMany readAttributes content
  let encoding := bs.take (bs.length - rest.length - unread.length)
  some ({ attributes := sets.flatten, encoding }, rest)

end Name
end CertAudit
