/- General names, the choice of name forms that several extensions share. -/
import CertAudit.Certificate.Basic
namespace CertAudit

/-- A name in one of nine forms. Identifiers are kept as the content of their encoding. -/
inductive GeneralName
  | other (oid : Bytes) (value : Bytes)
  | email (address : String)
  | dns (name : String)
  | x400
  | directory (name : Name)
  | ediParty
  | uri (text : String)
  | ip (octets : Bytes)
  | registered (oid : Bytes)
deriving Repr, DecidableEq

namespace GeneralName

/-- The name of one form that a tag number stands for. -/
def ofTagged (tag : Nat) (content : Bytes) : Option GeneralName :=
  match tag with
  | 0 => (Oid.read content).map fun (oid, value) => .other oid value
  | 1 => (Bytes.toString? content).map .email
  | 2 => (Bytes.toString? content).map .dns
  | 3 => some .x400
  | 4 => do
    let (name, rest) ← Name.read content
    if rest.isEmpty then some (.directory name) else none
  | 5 => some .ediParty
  | 6 => (Bytes.toString? content).map .uri
  | 7 => some (.ip content)
  | 8 => some (.registered content)
  | _ => none

/-- Reads a name. -/
def read (bs : Bytes) : Option (GeneralName × Bytes) := do
  let (e, rest) ← Der.read bs
  if e.tagClass ≠ .context then none
  else (ofTagged e.tag e.content).map (·, rest)

/-- A list of bytes in decimal. -/
def byteList (bs : Bytes) : String :=
  "[" ++ ", ".intercalate (bs.map fun b => Nat.repr b.toNat) ++ "]"

/-- A description of a form that has no text of its own. -/
def describe : GeneralName → String
  | .other oid value => "OtherName(OID(" ++ Oid.ofContent oid ++ "), " ++ byteList value ++ ")"
  | .email address => "RFC822Name(" ++ address ++ ")"
  | .dns name => "DNSName(" ++ name ++ ")"
  | .x400 => "X400Address(*)"
  | .directory name => "DirectoryName(" ++ name.oneLine ++ ")"
  | .ediParty => "EDIPartyName(*)"
  | .uri text => "URI(" ++ text ++ ")"
  | .ip octets => "IPAddress(" ++ byteList octets ++ ")"
  | .registered oid => "RegisteredID(OID(" ++ Oid.ofContent oid ++ "))"

/-- A name as an alternative name of a subject. -/
def toAltName : GeneralName → AltName
  | .email address => .email address
  | .dns name => .dns name
  | .uri text => .uri text
  | .directory name => .directory name.oneLine
  | .ip octets =>
    match IpAddress.ofBytes? octets with
    | some address => .ip address
    | none => .other (Hex.lower octets)
  | form => .other form.describe

/-- A name as the base of a subtree. -/
def toSubtree : GeneralName → NameSubtree
  | .email address => .email address
  | .dns name => .dns name
  | .uri text => .uri text
  | .ip octets => .ip octets
  | form => .other form.describe

/-- A name as the place where a service is. -/
def toLocation (n : GeneralName) : String :=
  match n.toAltName with
  | .ip address => address.display
  | .dns text => text
  | .email text => text
  | .uri text => text
  | .directory text => text
  | .other text => text

end GeneralName
end CertAudit
