/- Certificates: their fields, and what the checks ask of them. -/
import CertAudit.Name
import CertAudit.IpAddress
import CertAudit.Time.Timestamp
namespace CertAudit

/-- What a public key is for, with the parameters that checks look at. -/
inductive KeyAlgorithm
  | rsa (bits exponent : Nat)
  | ec (curve : String) (bits : Option Nat)
  | ed25519
  | ed448
  | unknown (oid : String)
deriving Repr, DecidableEq, Inhabited

/-- The short name of an algorithm; an unknown one goes by its identifier. -/
def KeyAlgorithm.name : KeyAlgorithm → String
  | .rsa .. => "RSA"
  | .ec .. => "EC"
  | .ed25519 => "Ed25519"
  | .ed448 => "Ed448"
  | .unknown oid => oid

/-- The size of a key in bits, where it is known. -/
def KeyAlgorithm.keySize? : KeyAlgorithm → Option Nat
  | .rsa bits _ => some bits
  | .ec _ bits => bits
  | .ed25519 => some 256
  | .ed448 => some 448
  | .unknown _ => none

/-- A public key: its algorithm and the bytes of the key itself. -/
structure PublicKey where
  algorithm : KeyAlgorithm
  bits : Bytes := []
deriving Repr, DecidableEq, Inhabited

/-- An alternative name of a subject. -/
inductive AltName
  | dns (name : String)
  | email (address : String)
  | ip (address : IpAddress)
  | uri (text : String)
  | directory (name : String)
  | other (text : String)
deriving DecidableEq

/-- The base of a subtree of names. An address comes with a mask of the same width. -/
inductive NameSubtree
  | dns (name : String)
  | email (address : String)
  | uri (host : String)
  | ip (addressAndMask : Bytes)
  | other (text : String)
deriving Repr, DecidableEq

/-- The subtrees that names below a certificate must and must not be in. -/
structure NameConstraints where
  permitted : List NameSubtree := []
  excluded : List NameSubtree := []
deriving Repr, DecidableEq

/-- Where to reach a service of the issuer. -/
structure AccessEntry where
  method : String
  location : String
deriving Repr, DecidableEq

/-- A policy of the issuer and the policy of the subject that it counts as. -/
structure PolicyMapping where
  issuerPolicy : String
  subjectPolicy : String
deriving Repr, DecidableEq

/-- What an extension says. Bit 0 of a key usage is the digital signature. -/
inductive ExtensionValue
  | basicConstraints (ca : Bool) (pathLength : Option Nat)
  | keyUsage (flags : Nat)
  | extendedKeyUsage (usages : List String)
  | subjectAltName (names : List AltName)
  | subjectKeyIdentifier (id : Bytes)
  | authorityKeyIdentifier (id : Option Bytes)
  | authorityInfoAccess (entries : List AccessEntry)
  | crlDistributionPoints (uris : List String)
  | certificatePolicies (policies : List String)
  | policyMappings (mappings : List PolicyMapping)
  | policyConstraints (requireExplicit inhibitMapping : Option Nat)
  | inhibitAnyPolicy (skip : Nat)
  | nameConstraints (constraints : NameConstraints)
  | raw
deriving DecidableEq

/-- An extension with its undecoded content. -/
structure Extension where
  oid : String
  name : String
  critical : Bool
  content : Bytes
  value : ExtensionValue
deriving DecidableEq

/-- A certificate. The encoding is empty for one that was not read. -/
structure Certificate where
  version : Nat
  serial : Bytes
  signatureAlgorithm : String
  signatureAlgorithmOid : String
  issuer : Name
  subject : Name
  notBefore : Timestamp
  notAfter : Timestamp
  publicKey : PublicKey
  extensions : List Extension
  encoding : Bytes
deriving DecidableEq

namespace Certificate

/-- The subject in one line. -/
def subjectLine (c : Certificate) : String := c.subject.oneLine

/-- The issuer in one line. -/
def issuerLine (c : Certificate) : String := c.issuer.oneLine

/-- The serial number as hexadecimal with colons. -/
def serialHex (c : Certificate) : String := Hex.colonUpper c.serial

/-- Whether two names are the same: by their encodings where both have one, else in one line. -/
def sameName (a b : Name) : Bool :=
  if !a.encoding.isEmpty && !b.encoding.isEmpty then a.encoding == b.encoding
  else a.oneLine == b.oneLine

/-- Whether a certificate names itself as its issuer. -/
def isSelfIssued (c : Certificate) : Bool := sameName c.subject c.issuer

/-- The first extension with an identifier. -/
def extension? (c : Certificate) (oid : String) : Option Extension :=
  c.extensions.find? fun e => e.oid == oid

/-- The first answer that a value of an extension gives. -/
def firstValue {α : Type} (c : Certificate) (f : ExtensionValue → Option α) : Option α :=
  c.extensions.findSome? fun e => f e.value

/-- Whether the certificate is for an authority, and the length of paths below it. -/
def basicConstraints? (c : Certificate) : Option (Bool × Option Nat) :=
  c.firstValue fun
    | .basicConstraints ca pathLength => some (ca, pathLength)
    | _ => none

/-- Whether basic constraints mark the certificate as that of an authority. -/
def isAuthority (c : Certificate) : Bool :=
  match c.basicConstraints? with
  | some (ca, _) => ca
  | none => false

/-- The number of authorities allowed below an authority. -/
def pathLength? (c : Certificate) : Option Nat :=
  match c.basicConstraints? with
  | some (true, pathLength) => pathLength
  | _ => none

/-- The alternative names of the subject. -/
def altNames (c : Certificate) : List AltName :=
  (c.firstValue fun
    | .subjectAltName names => some names
    | _ => none).getD []

/-- The identifier of the subject's key. -/
def subjectKeyId? (c : Certificate) : Option Bytes :=
  c.firstValue fun
    | .subjectKeyIdentifier id => some id
    | _ => none

/-- The identifier of the issuer's key. -/
def authorityKeyId? (c : Certificate) : Option Bytes :=
  c.firstValue fun
    | .authorityKeyIdentifier id => id
    | _ => none

/-- The policies declared, if there is an extension for them. -/
def policies? (c : Certificate) : Option (List String) :=
  c.firstValue fun
    | .certificatePolicies policies => some policies
    | _ => none

/-- The policy mappings declared. -/
def policyMappings (c : Certificate) : List PolicyMapping :=
  (c.firstValue fun
    | .policyMappings mappings => some mappings
    | _ => none).getD []

/-- After how many certificates explicit policies are required and mappings are inhibited. -/
def policyConstraints? (c : Certificate) : Option (Option Nat × Option Nat) :=
  c.firstValue fun
    | .policyConstraints requireExplicit inhibitMapping => some (requireExplicit, inhibitMapping)
    | _ => none

/-- After how many certificates the policy that stands for all others is inhibited. -/
def inhibitAnyPolicy? (c : Certificate) : Option Nat :=
  c.firstValue fun
    | .inhibitAnyPolicy skip => some skip
    | _ => none

/-- The name constraints declared. -/
def nameConstraints? (c : Certificate) : Option NameConstraints :=
  c.firstValue fun
    | .nameConstraints constraints => some constraints
    | _ => none

end Certificate
end CertAudit
