/- Chains of certificates, each issued by the next, and the certificates left over. -/
import CertAudit.Certificate.Source
import CertAudit.Digest
namespace CertAudit

/-- The part of a certificate in a chain. -/
inductive ChainRole
  | leaf
  | intermediate
  | root
deriving Repr, DecidableEq

/-- The name of a part. -/
def ChainRole.name : ChainRole → String
  | .leaf => "leaf"
  | .intermediate => "intermediate"
  | .root => "root"

/-- A certificate with the file it is from, its hash, and its place in a chain. -/
structure ChainEntry where
  certificate : Certificate
  file : Option String := none
  hash : String := Digest.contentHash certificate.encoding
  position : Nat := 0
  role : ChainRole := .leaf
deriving DecidableEq

/-- The name of an entry for messages: its file, else its subject. -/
def ChainEntry.label (e : ChainEntry) : String := e.file.getD e.certificate.subjectLine

namespace Chain

/-- The largest number of certificates in a chain. -/
def maxDepth : Nat := 32

/-- What linking looks at: both names in one line, and whether they name the same. -/
structure Link where
  subject : String
  issuer : String
  selfIssued : Bool
deriving Repr, DecidableEq

/-- The link of a certificate. -/
def Link.ofCertificate (c : Certificate) : Link :=
  { subject := c.subjectLine, issuer := c.issuerLine, selfIssued := c.isSelfIssued }

/-- The place of the issuer of the certificate at a place: the first certificate whose subject it
names. A self-issued certificate has none. -/
def issuer? (links : List Link) (i : Nat) : Option Nat :=
  match links[i]? with
  | none => none
  | some l => if l.selfIssued then none else links.findIdx? fun other => other.subject == l.issuer

/-- The places from issuer to issuer behind a place, at most `fuel` of them, up to the first that
has been seen before. -/
def issuers (links : List Link) : Nat → List Nat → Nat → List Nat
  | 0, _, _ => []
  | fuel + 1, seen, i =>
    match issuer? links i with
    | none => []
    | some j => if seen.contains j then [] else j :: issuers links fuel (j :: seen) j

/-- The walk from a place up the issuers. -/
def walk (links : List Link) (start : Nat) : List Nat :=
  start :: issuers links (maxDepth - 1) [start] start

/-- The longest of some walks, the first of several. -/
def longest (walks : List (List Nat)) : List Nat :=
  walks.foldl (fun best w => if w.length > best.length then w else best) []

/-- The places of the chain among some certificates. -/
def order (links : List Link) : List Nat := longest ((List.range links.length).map (walk links))

/-- The part of a certificate at a position of a chain: a self-issued one at the end is a root. -/
def roleAt (position length : Nat) (selfIssued : Bool) : ChainRole :=
  if position + 1 = length ∧ selfIssued then .root
  else if position = 0 then .leaf
  else .intermediate

/-- An entry at a position of a chain. -/
def place (length position : Nat) (e : ChainEntry) : ChainEntry :=
  { e with position, role := roleAt position length e.certificate.isSelfIssued }

/-- The entries at the given places, as a chain. -/
def along (places : List Nat) (entries : List ChainEntry) : List ChainEntry :=
  (places.filterMap fun i => entries[i]?).zipIdx.map fun (e, position) =>
    place places.length position e

/-- The entries at no given place, each a chain of its own. -/
def outside (places : List Nat) (entries : List ChainEntry) : List ChainEntry :=
  (entries.zipIdx.filter fun (_, i) => !places.contains i).map fun (e, _) => place 1 0 e

/-- The longest chain among some certificates, and the certificates outside it. -/
def assemble (entries : List ChainEntry) : Except Failure (List ChainEntry × List ChainEntry) :=
  if entries.isEmpty then .error .noCertificates
  else
    let places := order (entries.map fun e => Link.ofCertificate e.certificate)
    if places.isEmpty then .error .chainNotBuilt
    else .ok (along places entries, outside places entries)

end Chain
end CertAudit
