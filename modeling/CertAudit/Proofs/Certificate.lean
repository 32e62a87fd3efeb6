/- Certificates that say nothing beyond their names and their extensions. -/
import CertAudit.Certificate.Basic
namespace CertAudit.Certificate

/-- A certificate with common names and extension values, and nothing else of note. -/
def plain (subject issuer : String) (values : List ExtensionValue) : Certificate :=
  { version := 3
    serial := [1]
    signatureAlgorithm := ""
    signatureAlgorithmOid := ""
    issuer := { attributes := [("CN", issuer)] }
    subject := { attributes := [("CN", subject)] }
    notBefore := { seconds := 0 }
    notAfter := { seconds := 0 }
    publicKey := { algorithm := .ed25519 }
    extensions := values.map fun value =>
      { oid := "", name := "", critical := false, content := [], value }
    encoding := [] }

end CertAudit.Certificate
