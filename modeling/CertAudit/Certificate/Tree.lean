/- The tree of a certificate, which the targets of rules are paths into. -/
import CertAudit.Certificate.Basic
import CertAudit.Number.Digits
import CertAudit.Tree
namespace CertAudit

namespace Value

/-- A list of texts. -/
def texts (ss : List String) : Value := .list (ss.map .string)

end Value

namespace CertificateTree

/-- The key of the node that holds a certificate. -/
def rootKey : String := "certificate"

/-- The names of the bits of a key usage, from bit 0. -/
def keyUsageNames : List String := ["digitalSignature", "contentCommitment", "keyEncipherment",
  "dataEncipherment", "keyAgreement", "keyCertSign", "cRLSign", "encipherOnly", "decipherOnly"]

/-- One value as itself, several as a list. -/
def gathered : List String → Value
  | [s] => .string s
  | ss => Value.texts ss

/-- A name in one line, with a child for each type of attribute. -/
def nameNode (key : String) (n : Name) : Node :=
  (Node.leaf key (.string n.oneLine)).withChildren <|
    (n.attributes.map (·.1)).eraseDups.map fun k =>
      Node.leaf k (gathered ((n.attributes.filter fun a => a.1 == k).map (·.2)))

/-- The parameter of an algorithm that checks look at, beside the size. -/
def parameterNodes : KeyAlgorithm → List Node
  | .rsa _ exponent => [Node.leaf "exponent" (Value.ofNat exponent)]
  | .ec curve _ => [Node.leaf "curve" (.string curve)]
  | _ => []

/-- The algorithm and the size of a key. -/
def keyNode (a : KeyAlgorithm) : Node :=
  (Node.new "subjectPublicKeyInfo").withChildren <|
    Node.leaf "algorithm" (.string a.name) ::
      ((a.keySize?.map fun bits => Node.leaf "keySize" (Value.ofNat bits)).toList ++
        parameterNodes a)

/-- How many alternative names there are, with a list for each form. -/
def altNameNode (names : List AltName) : Node :=
  (Node.leaf "subjectAltName" (Value.ofNat names.length)).withChildren [
    Node.leaf "dns" (Value.texts (names.filterMap fun
      | .dns s => some s
      | _ => none)),
    Node.leaf "email" (Value.texts (names.filterMap fun
      | .email s => some s
      | _ => none)),
    Node.leaf "ip" (Value.texts (names.filterMap fun
      | .ip a => some a.display
      | _ => none)),
    Node.leaf "uri" (Value.texts (names.filterMap fun
      | .uri s => some s
      | _ => none)),
    Node.leaf "dirName" (Value.texts (names.filterMap fun
      | .directory s => some s
      | _ => none))]

/-- The number of bits set in bytes. -/
def bitCount (bs : Bytes) : Nat :=
  (bs.flatMap fun b => (List.range 8).filter b.toNat.testBit).length

/-- An address with the number of bits of its mask, or plain hexadecimal. -/
def subnetText (bs : Bytes) : String :=
  let half := bs.length / 2
  match IpAddress.ofBytes? (bs.take half) with
  | some a => a.display ++ "/" ++ Nat.repr (bitCount (bs.drop half))
  | none => Hex.lower bs

/-- Subtrees, with a list for each form. -/
def subtreesNode (key : String) (subtrees : List NameSubtree) : Node :=
  (Node.new key).withChildren [
    Node.leaf "dns" (Value.texts (subtrees.filterMap fun
      | .dns s => some s
      | _ => none)),
    Node.leaf "email" (Value.texts (subtrees.filterMap fun
      | .email s => some s
      | _ => none)),
    Node.leaf "uri" (Value.texts (subtrees.filterMap fun
      | .uri s => some s
      | _ => none)),
    Node.leaf "ip" (Value.texts (subtrees.filterMap fun
      | .ip bs => some (subnetText bs)
      | _ => none))]

/-- A mapping by its place in the list. -/
def mappingNode (m : PolicyMapping) (i : Nat) : Node :=
  (Node.new (Nat.repr i)).withChildren [
    Node.leaf "issuerDomainPolicy" (.string m.issuerPolicy),
    Node.leaf "subjectDomainPolicy" (.string m.subjectPolicy)]

/-- The locations of one method. -/
def locations (method : String) (entries : List AccessEntry) : Value :=
  Value.texts ((entries.filter fun e => e.method == method).map (·.location))

/-- A child with a number, if there is one. -/
def numberLeaf (key : String) (n : Option Nat) : List Node :=
  (n.map fun n => Node.leaf key (Value.ofNat n)).toList

/-- A readable node for what an extension says. -/
def viewNode? : ExtensionValue → Option Node
  | .basicConstraints ca pathLength =>
    some ((Node.new "basicConstraints").withChildren
      (Node.leaf "ca" (.bool ca) :: numberLeaf "pathLenConstraint" pathLength))
  | .keyUsage flags =>
    some ((Node.leaf "keyUsage" (Value.ofNat flags)).withChildren
      (keyUsageNames.zipIdx.map fun (name, i) => Node.leaf name (.bool (flags.testBit i))))
  | .extendedKeyUsage usages =>
    some ((Node.leaf "extendedKeyUsage" (Value.texts usages)).withChildren
      (Identifiers.usageFlags.map fun (oid, name) =>
        Node.leaf name (.bool (usages.contains oid))))
  | .subjectAltName names => some (altNameNode names)
  | .subjectKeyIdentifier id => some (Node.leaf "subjectKeyIdentifier" (.bytes id))
  | .authorityKeyIdentifier none => some (Node.new "authorityKeyIdentifier")
  | .authorityKeyIdentifier (some id) =>
    some ((Node.leaf "authorityKeyIdentifier" (.bytes id)).insert
      (Node.leaf "keyIdentifier" (.bytes id)))
  | .authorityInfoAccess entries =>
    some ((Node.new "authorityInfoAccess").withChildren [
      Node.leaf "ocsp" (locations "OCSP" entries),
      Node.leaf "caIssuers" (locations "CA Issuers" entries)])
  | .crlDistributionPoints uris => some (Node.leaf "crlDistributionPoints" (Value.texts uris))
  | .certificatePolicies policies =>
    some (policies.foldl (fun n p => n.insertPath p (Node.leaf p (.bool true)))
      (Node.leaf "certificatePolicies" (Value.texts policies)))
  | .policyMappings mappings =>
    some ((Node.leaf "policyMappings" (Value.ofNat mappings.length)).withChildren
      (mappings.zipIdx.map fun (m, i) => mappingNode m i))
  | .policyConstraints requireExplicit inhibitMapping =>
    some ((Node.new "policyConstraints").withChildren
      (numberLeaf "requireExplicitPolicy" requireExplicit ++
        numberLeaf "inhibitPolicyMapping" inhibitMapping))
  | .inhibitAnyPolicy skip => some (Node.leaf "inhibitAnyPolicy" (Value.ofNat skip))
  | .nameConstraints c =>
    some ((Node.new "nameConstraints").withChildren [
      subtreesNode "permitted" c.permitted, subtreesNode "excluded" c.excluded])
  | .raw => none

/-- The readable nodes of extensions; of two with one key the later counts. -/
def viewNodes (extensions : List Extension) : List Node :=
  extensions.filterMap fun e =>
    (viewNode? e.value).map fun n => n.insert (Node.leaf "critical" (.bool e.critical))

/-- The undecoded content of an extension. -/
def contentNode (e : Extension) : Node :=
  (Node.leaf e.oid (.bytes e.content)).withChildren [
    Node.leaf "critical" (.bool e.critical),
    Node.leaf "name" (.string e.name),
    Node.leaf "oid" (.string e.oid)]

/-- The undecoded contents of extensions, an arc of the identifier a level. -/
def contentsNode (extensions : List Extension) : Node :=
  extensions.foldl (fun n e => n.insertPath e.oid (contentNode e)) (Node.new "extensions")

/-- The fields of a certificate that are not extensions. -/
def fieldNodes (c : Certificate) : List Node := [
  Node.leaf "version" (Value.ofNat c.version),
  (Node.leaf "serialNumber" (.bytes c.serial)).withChildren [
    Node.leaf "hex" (.string c.serialHex),
    Node.leaf "decimal" (.string (Bytes.toDecimal c.serial))],
  (Node.leaf "signatureAlgorithm" (.string c.signatureAlgorithm)).insert
    (Node.leaf "oid" (.string c.signatureAlgorithmOid)),
  nameNode "issuer" c.issuer,
  nameNode "subject" c.subject,
  (Node.new "validity").withChildren [
    Node.leaf "notBefore" (.time c.notBefore),
    Node.leaf "notAfter" (.time c.notAfter),
    Node.leaf "days" (.int (Int64.ofInt (c.notBefore.daysUntil c.notAfter)))],
  keyNode c.publicKey.algorithm]

/-- The node of a certificate. -/
def certificateNode (c : Certificate) : Node :=
  ((Node.new rootKey).withChildren (fieldNodes c ++ viewNodes c.extensions)).insert
    (contentsNode c.extensions)

end CertificateTree

/-- The tree of a certificate. -/
def Certificate.tree (c : Certificate) : Node :=
  (Node.new "").insert (CertificateTree.certificateNode c)

end CertAudit
