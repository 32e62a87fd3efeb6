/- Names and certificates as JSON documents. Byte strings are written in hexadecimal. -/
import CertAudit.Certificate.Basic
import CertAudit.Failure
import CertAudit.Json.Basic
namespace CertAudit

namespace Json

/-- The document of a byte string. -/
def bytes (bs : Bytes) : Json := .string (Hex.colonUpper bs)

/-- The document of a natural number. -/
def nat (n : Nat) : Json := .integer n

/-- The document of something that may be missing. -/
def optional {α : Type} (f : α → Json) : Option α → Json
  | some x => f x
  | none => .null

/-- The document of a time. -/
def time (t : Timestamp) : Json := .string t.display

/-- A value with the name of its kind. -/
def tagged (kind : String) (value : Json) : Json :=
  .object [("type", .string kind), ("value", value)]

end Json

/-- A name as a document. -/
def Name.toJson (n : Name) : Json :=
  .object [("components", .array (n.attributes.map fun a => .array [.string a.1, .string a.2]))]

/-- The algorithm of a key as a document. -/
def KeyAlgorithm.toJson : KeyAlgorithm → Json
  | .rsa bits exponent =>
    .object [("type", .string "Rsa"), ("bits", .nat bits), ("exponent", .nat exponent)]
  | .ec curve bits =>
    .object [("type", .string "Ec"), ("curve", .string curve), ("bits", .optional .nat bits)]
  | .ed25519 => .object [("type", .string "Ed25519")]
  | .ed448 => .object [("type", .string "Ed448")]
  | .unknown oid => .object [("type", .string "Unknown"), ("oid", .string oid)]

/-- The form that a description begins with. -/
def formOf (text : String) : String :=
  let cs := text.toList
  if cs.contains '(' then String.ofList (cs.takeWhile (· != '(')) ++ "(" ++ someDetail else text

/-- An alternative name as a document. Of a name in some other form only the form is told. -/
def AltName.toJson : AltName → Json
  | .dns s => .tagged "Dns" (.string s)
  | .email s => .tagged "Email" (.string s)
  | .ip a => .tagged "Ip" (.string a.display)
  | .uri s => .tagged "Uri" (.string s)
  | .directory s => .tagged "DirName" (.string s)
  | .other s => .tagged "Other" (.string (formOf s))

/-- A subtree as a document. Of a name in some other form only the form is told. -/
def NameSubtree.toJson : NameSubtree → Json
  | .dns s => .tagged "Dns" (.string s)
  | .email s => .tagged "Email" (.string s)
  | .uri s => .tagged "Uri" (.string s)
  | .ip bs => .tagged "Ip" (.bytes bs)
  | .other s => .tagged "Other" (.string (formOf s))

/-- Name constraints as a document. -/
def NameConstraints.toJson (c : NameConstraints) : Json :=
  .object [("permitted", .array (c.permitted.map NameSubtree.toJson)),
    ("excluded", .array (c.excluded.map NameSubtree.toJson))]

/-- A service as a document. -/
def AccessEntry.toJson (a : AccessEntry) : Json :=
  .object [("method", .string a.method), ("location", .string a.location)]

/-- A mapping as a document. -/
def PolicyMapping.toJson (m : PolicyMapping) : Json :=
  .object [("issuer_domain_policy", .string m.issuerPolicy),
    ("subject_domain_policy", .string m.subjectPolicy)]

/-- What an extension says as a document. -/
def ExtensionValue.toJson : ExtensionValue → Json
  | .basicConstraints ca pathLength =>
    .tagged "BasicConstraints" (.object [("ca", .bool ca), ("path_len", .optional .nat pathLength)])
  | .keyUsage flags => .tagged "KeyUsage" (.nat flags)
  | .extendedKeyUsage usages => .tagged "ExtendedKeyUsage" (.array (usages.map .string))
  | .subjectAltName names => .tagged "SubjectAltName" (.array (names.map AltName.toJson))
  | .subjectKeyIdentifier id => .tagged "SubjectKeyIdentifier" (.bytes id)
  | .authorityKeyIdentifier id =>
    .tagged "AuthorityKeyIdentifier" (.object [("key_id", .optional .bytes id)])
  | .authorityInfoAccess entries =>
    .tagged "AuthorityInfoAccess" (.array (entries.map AccessEntry.toJson))
  | .crlDistributionPoints uris => .tagged "CrlDistributionPoints" (.array (uris.map .string))
  | .certificatePolicies policies => .tagged "CertificatePolicies" (.array (policies.map .string))
  | .policyMappings mappings =>
    .tagged "PolicyMappings" (.array (mappings.map PolicyMapping.toJson))
  | .policyConstraints requireExplicit inhibitMapping =>
    .tagged "PolicyConstraints" (.object [
      ("require_explicit_policy", .optional .nat requireExplicit),
      ("inhibit_policy_mapping", .optional .nat inhibitMapping)])
  | .inhibitAnyPolicy skip => .tagged "InhibitAnyPolicy" (.nat skip)
  | .nameConstraints c => .tagged "NameConstraints" c.toJson
  | .raw => .object [("type", .string "Raw")]

/-- An extension as a document. -/
def Extension.toJson (e : Extension) : Json :=
  .object [("oid", .string e.oid), ("name", .string e.name), ("critical", .bool e.critical),
    ("raw", .bytes e.content), ("value", e.value.toJson)]

namespace Certificate

/-- The members of the document of a certificate. -/
def members (c : Certificate) : List (String × Json) := [
  ("version", .nat c.version),
  ("serial", .bytes c.serial),
  ("signature_algorithm", .string c.signatureAlgorithm),
  ("signature_algorithm_oid", .string c.signatureAlgorithmOid),
  ("issuer", c.issuer.toJson),
  ("subject", c.subject.toJson),
  ("not_before", .time c.notBefore),
  ("not_after", .time c.notAfter),
  ("public_key", .object [("algorithm", c.publicKey.algorithm.toJson)]),
  ("extensions", .array (c.extensions.map Extension.toJson))]

/-- A certificate as a document. -/
def toJson (c : Certificate) : Json := .object c.members

end Certificate
end CertAudit
