/- Reading extensions. An extension whose content does not follow its own rules is kept raw. -/
import CertAudit.Certificate.GeneralName
import CertAudit.Der.Value
namespace CertAudit.ExtensionValue

/-- The number of an element, if it has at most 32 bits. -/
def numberOf? (e : Der.Element) : Option Nat := e.number?.filter (· < UInt32.size)

/-- Whether the subject is an authority, and how long paths below it may be. -/
def readBasicConstraints (bs : Bytes) : Option ExtensionValue := do
  let (items, _) ← Der.readElements bs
  match items with
  | [] => some (.basicConstraints false none)
  | [e] =>
    match e.flag? with
    | some ca => some (.basicConstraints ca none)
    | none => (numberOf? e).map fun n => .basicConstraints false (some n)
  | [e, f] => do
    let ca ← e.flag?
    let n ← numberOf? f
    some (.basicConstraints ca (some n))
  | _ => none

/-- A byte with its bits in reverse order. -/
def reverseBits (b : UInt8) : Nat :=
  (List.range 8).foldl (fun n i => n * 2 + b.toNat / Nat.pow 2 i % 2) 0

/-- The flags of a key usage, of which the sixteen of the lowest bytes count. Without any byte
there is no unused bit to check. -/
def readKeyUsage (bs : Bytes) : Option ExtensionValue := do
  let (e, _) ← Der.readTagged Der.Tag.bitString bs
  let unused ← e.content.head?
  let bits := e.content.drop 1
  if e.constructed || unused > 7 || !(bits.isEmpty || Der.unusedBitsZero e.content) then none
  some (.keyUsage (bits.reverse.foldl (fun n b => (n * 256 + reverseBits b) % UInt16.size) 0))

/-- The usages of a key: those with a flag in a fixed order, then the others as they come. -/
def readExtendedKeyUsage (bs : Bytes) : Option ExtensionValue := do
  let (oids, _) ← Der.readSequenceOf Oid.read bs
  let oids := oids.eraseDups
  let flagged := Identifiers.usageOrder.filter fun u => oids.any (Oid.spells · u)
  let others := oids.filter fun o => !Identifiers.usageOrder.any (Oid.spells o)
  some (.extendedKeyUsage (flagged ++ others.map Oid.ofContent))

/-- The alternative names of the subject. -/
def readSubjectAltName (bs : Bytes) : Option ExtensionValue := do
  let (names, _) ← Der.readSequenceOf GeneralName.read bs
  some (.subjectAltName (names.map GeneralName.toAltName))

/-- The identifier of the subject's key. -/
def readSubjectKeyIdentifier (bs : Bytes) : Option ExtensionValue := do
  let (id, _) ← Der.readOctetString bs
  some (.subjectKeyIdentifier id)

/-- The identifier of the issuer's key. Whatever else the content holds is passed over. -/
def readAuthorityKeyIdentifier (bs : Bytes) : Option ExtensionValue := do
  let (content, _) ← Der.readContent Der.Tag.sequence bs
  some (.authorityKeyIdentifier ((Der.readContent 0 content).map (·.1)))

/-- One service of the issuer. -/
def readAccess (bs : Bytes) : Option (AccessEntry × Bytes) := do
  let (content, rest) ← Der.readContent Der.Tag.sequence bs
  let (oid, content) ← Oid.read content
  let (name, _) ← GeneralName.read content
  let method := Identifiers.nameIn Identifiers.accessNames (Oid.ofContent oid)
  some ({ method, location := name.toLocation }, rest)

/-- The services of the issuer. -/
def readAuthorityInfoAccess (bs : Bytes) : Option ExtensionValue := do
  let (entries, _) ← Der.readSequenceOf readAccess bs
  some (.authorityInfoAccess entries)

/-- The content behind an explicit tag, and the bytes after it. -/
def readExplicit (tag : Nat) (bs : Bytes) : Option (Bytes × Bytes) := do
  let (e, rest) ← Der.readTagged tag bs
  if e.constructed then some (e.content, rest) else none

/-- The full names in the field of a distribution point that locates a list, up to the first one
that cannot be read. A field without them gives none. -/
def pointNames (field : Bytes) : List GeneralName :=
  match Der.readHeader field with
  | some (h, _, body) => if h.tag = 0 then (Der.readMany GeneralName.read body).1 else []
  | none => []

/-- One distribution point, as the names of the places where its list is. -/
def readPoint (bs : Bytes) : Option (List GeneralName × Bytes) := do
  let (content, rest) ← Der.readContent Der.Tag.sequence bs
  match readExplicit 0 content with
  | some (field, _) => some (pointNames field, rest)
  | none => some ([], rest)

/-- The places where revocation lists are. -/
def readCrlDistributionPoints (bs : Bytes) : Option ExtensionValue := do
  let (points, _) ← Der.readSequenceOf readPoint bs
  let uris := points.flatten.filterMap fun
    | .uri text => some text
    | _ => none
  some (.crlDistributionPoints uris)

/-- One policy, whatever qualifies it. -/
def readPolicy (bs : Bytes) : Option (Bytes × Bytes) := do
  let (content, rest) ← Der.readContent Der.Tag.sequence bs
  let (oid, _) ← Oid.read content
  some (oid, rest)

/-- The policies of the certificate. -/
def readCertificatePolicies (bs : Bytes) : Option ExtensionValue := do
  let (oids, _) ← Der.readSequenceOf readPolicy bs
  some (.certificatePolicies (oids.map Oid.ofContent))

/-- A pair of policies, whatever comes behind them. -/
def readMapping (bs : Bytes) : Option (PolicyMapping × Bytes) := do
  let (content, rest) ← Der.readContent Der.Tag.sequence bs
  let (issuer, content) ← Oid.read content
  let (subject, _) ← Oid.read content
  some (⟨Oid.ofContent issuer, Oid.ofContent subject⟩, rest)

/-- The policies of the issuer that count as policies of the subject. -/
def readPolicyMappings (bs : Bytes) : Option ExtensionValue := do
  let (mappings, _) ← Der.readSequenceOf readMapping bs
  some (.policyMappings mappings)

/-- A number behind a tag of any class, if one comes next. -/
def readTaggedNumber (tag : Nat) (bs : Bytes) : Option Nat × Bytes :=
  match Der.readContent tag bs with
  | some (content, rest) =>
    match Der.uint32? content with
    | some n => (some n, rest)
    | none => (none, bs)
  | none => (none, bs)

/-- After how many certificates policies are required and mappings are inhibited. -/
def readPolicyConstraints (bs : Bytes) : Option ExtensionValue := do
  let (content, _) ← Der.readContent Der.Tag.sequence bs
  let (requireExplicit, rest) := readTaggedNumber 0 content
  let (inhibitMapping, rest) := readTaggedNumber 1 rest
  if rest.isEmpty then some (.policyConstraints requireExplicit inhibitMapping) else none

/-- After how many certificates the policy for all policies is inhibited. -/
def readInhibitAnyPolicy (bs : Bytes) : Option ExtensionValue := do
  let (content, _) ← Der.readContent Der.Tag.integer bs
  let skip ← Der.uint32? content
  some (.inhibitAnyPolicy skip)

/-- One subtree. -/
def readSubtree (bs : Bytes) : Option (NameSubtree × Bytes) := do
  let (content, rest) ← Der.readContent Der.Tag.sequence bs
  let (name, _) ← GeneralName.read content
  some (name.toSubtree, rest)

/-- The subtrees behind a tag, if one or more come next and all of them can be read. -/
def readSubtrees (tag : Nat) (bs : Bytes) : List NameSubtree × Bytes :=
  match readExplicit tag bs with
  | none => ([], bs)
  | some (content, rest) =>
    match Der.readAll readSubtree content with
    | none | some [] => ([], bs)
    | some subtrees => (subtrees, rest)

/-- The subtrees that names must and must not be in. -/
def readNameConstraints (bs : Bytes) : Option ExtensionValue := do
  let (content, _) ← Der.readContent Der.Tag.sequence bs
  let (permitted, rest) := readSubtrees 0 content
  let (excluded, _) := readSubtrees 1 rest
  some (.nameConstraints { permitted, excluded })

/-- Readers of contents by the identifier of the extension. -/
def readers : List (String × (Bytes → Option ExtensionValue)) := [
  (Identifiers.basicConstraints, readBasicConstraints),
  (Identifiers.keyUsage, readKeyUsage),
  (Identifiers.extendedKeyUsage, readExtendedKeyUsage),
  (Identifiers.subjectAltName, readSubjectAltName),
  (Identifiers.subjectKeyIdentifier, readSubjectKeyIdentifier),
  (Identifiers.authorityKeyIdentifier, readAuthorityKeyIdentifier),
  (Identifiers.authorityInfoAccess, readAuthorityInfoAccess),
  (Identifiers.crlDistributionPoints, readCrlDistributionPoints),
  (Identifiers.certificatePolicies, readCertificatePolicies),
  (Identifiers.policyMappings, readPolicyMappings),
  (Identifiers.policyConstraints, readPolicyConstraints),
  (Identifiers.inhibitAnyPolicy, readInhibitAnyPolicy),
  (Identifiers.nameConstraints, readNameConstraints)]

/-- What the content of an extension says. -/
def ofContent (oid content : Bytes) : ExtensionValue :=
  match readers.find? fun r => Oid.spells oid r.1 with
  | some (_, read) => (read content).getD .raw
  | none => .raw

end CertAudit.ExtensionValue

namespace CertAudit.Extension

/-- Reads an extension: its identifier, whether it is critical, and its content. -/
def read (bs : Bytes) : Option (Extension × Bytes) := do
  let (fields, rest) ← Der.readContent Der.Tag.sequence bs
  let (oidContent, fields) ← Oid.read fields
  let (critical, fields) := Der.readFlag fields
  let (content, _) ← Der.readOctetString fields
  let oid := Oid.ofContent oidContent
  let name := Identifiers.nameIn Identifiers.extensionNames oid
  let value := ExtensionValue.ofContent oidContent content
  some ({ oid, name, critical, content, value }, rest)

/-- Reads a sequence of extensions that is complete. -/
def readList (bs : Bytes) : Option (List Extension × Bytes) := Der.readSequenceOf read bs

/-- Reads extensions behind a given tag number, which fill the bytes; no bytes hold none. -/
def readTagged (tag : Nat) (bs : Bytes) : Option (List Extension) :=
  if bs.isEmpty then some []
  else do
    let (h, _, body) ← Der.readHeader bs
    if h.tag ≠ tag then none
    let (extensions, rest) ← readList body
    if rest.isEmpty then some extensions else none

end CertAudit.Extension
