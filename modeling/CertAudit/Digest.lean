/- Digests by the name of their algorithm, and the hash that identifies a certificate. -/
import CertAudit.Digest.Sha1
import CertAudit.Digest.Sha256
import CertAudit.Digest.Sha512
import CertAudit.Text.Hex
namespace CertAudit

/-- The digest algorithms that certificates and responses name. -/
inductive DigestAlgorithm
  | sha1
  | sha256
  | sha384
  | sha512
deriving Repr, DecidableEq

namespace Digest

/-- The digest of a message. -/
def compute : DigestAlgorithm → Bytes → Bytes
  | .sha1, m => Sha1.digest m
  | .sha256, m => Sha256.digest m
  | .sha384, m => Sha512.digest384 m
  | .sha512, m => Sha512.digest m

/-- The identity of a certificate: the SHA-256 digest of its encoding in lowercase hexadecimal. -/
def contentHash (encoding : Bytes) : String := Hex.lower (compute .sha256 encoding)

end Digest
end CertAudit
