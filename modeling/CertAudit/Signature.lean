/- Checking signatures by the algorithm that they name. -/
import CertAudit.Certificate.Reader
import CertAudit.Signature.Ecdsa
import CertAudit.Signature.Ed25519
namespace CertAudit.Signature

/-- How a signature is made, where it can be checked: salted signatures cannot. -/
inductive Scheme
  | rsa (digest : DigestAlgorithm)
  | ecdsa (digest : DigestAlgorithm)
  | ed25519
deriving Repr, DecidableEq

/-- Schemes by their identifiers. -/
def schemes : List (String × Scheme) := [
  (Identifiers.sha1WithRsa, .rsa .sha1),
  (Identifiers.sha1WithRsaOld, .rsa .sha1),
  (Identifiers.sha256WithRsa, .rsa .sha256),
  (Identifiers.sha384WithRsa, .rsa .sha384),
  (Identifiers.sha512WithRsa, .rsa .sha512),
  (Identifiers.ecdsaWithSha256, .ecdsa .sha256),
  (Identifiers.ecdsaWithSha384, .ecdsa .sha384),
  (Identifiers.ed25519, .ed25519)]

/-- The scheme that an algorithm names. -/
def scheme? (a : AlgorithmId) : Option Scheme :=
  (schemes.find? fun s => Oid.spells a.oid s.1).map (·.2)

/-- The curve that the parameters of a key choose. -/
def curve? (parameters : Option Der.Element) : Option Ecdsa.Curve := do
  let e ← parameters
  if Oid.spells e.content Identifiers.curveP256 then some Ecdsa.p256
  else if Oid.spells e.content Identifiers.curveP384 then some Ecdsa.p384
  else none

/-- Whether the signature over some bytes is one by a key. -/
def verify (key : EncodedKey) (signed : SignedBytes) : Bool :=
  match scheme? signed.algorithm with
  | none => false
  | some (.rsa digest) => Rsa.verify digest key.bits signed.body signed.signature
  | some (.ecdsa digest) =>
    match curve? key.algorithm.parameters with
    | none => false
    | some c => c.verify digest key.bits signed.body signed.signature
  | some .ed25519 => Ed25519.verify key.bits signed.body signed.signature

end CertAudit.Signature

namespace CertAudit.Certificate

/-- The public key in the encoding of a certificate. -/
def encodedKey? (c : Certificate) : Option EncodedKey :=
  (readSignedCertificate c.encoding).map fun ((body, _), _) => body.key

/-- Whether the key of a certificate made the signature over some bytes. -/
def signed (signer : Certificate) (bytes : SignedBytes) : Bool :=
  match signer.encodedKey? with
  | none => false
  | some key => Signature.verify key bytes

/-- Whether the key of another certificate made the signature of a certificate. -/
def isSignedBy (c issuer : Certificate) : Bool :=
  match readSignedCertificate c.encoding with
  | none => false
  | some ((_, bytes), _) => issuer.signed bytes

end CertAudit.Certificate
