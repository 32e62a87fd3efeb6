/- Certificates from files: bare encodings, armored text, and bundles of several. -/
import CertAudit.Certificate.Reader
import CertAudit.Text.Armor
import CertAudit.Failure
namespace CertAudit.Certificate

/-- The certificate an encoding begins with; what follows it does not count. -/
def ofEncoding (bs : Bytes) : Except Failure Certificate :=
  match readSignedCertificate bs with
  | none => .error .encoding
  | some ((body, signed), rest) =>
    if body.version > 2 then .error (.certificate (.version (body.version + 1)))
    else .ok (ofParts body signed (bs.take (bs.length - rest.length)))

/-- The labels of blocks that hold certificates. -/
def armorLabels : List String := ["CERTIFICATE", "TRUSTED CERTIFICATE", "X509 CERTIFICATE"]

/-- The certificate in the first block of armored text. -/
def ofArmor (bs : Bytes) : Except Failure Certificate :=
  match Armor.first? bs with
  | none => .error (.armor .unreadable)
  | some block =>
    if armorLabels.contains block.label then ofEncoding block.content
    else .error (.armor (.label block.label))

/-- One certificate from armored text or from a bare encoding. -/
def ofBytes (bs : Bytes) : Except Failure Certificate :=
  if bs.isEmpty then .error (.certificate .empty)
  else if Armor.isArmored bs then ofArmor bs
  else ofEncoding bs

/-- All certificates of armored text, or the one of a bare encoding. Blocks with other labels are
passed over, and so is what follows a block that cannot be read, if a certificate came before. -/
def bundle (bs : Bytes) : Except Failure (List Certificate) :=
  if Armor.isArmored bs then do
    let (blocks, broken) := Armor.blocks bs
    let certs ← (blocks.filter fun b => armorLabels.contains b.label).mapM
      fun b => ofEncoding b.content
    if !certs.isEmpty then .ok certs
    else if broken then .error (.armor .certificates)
    else .error (.armor .noCertificates)
  else (ofEncoding bs).map ([·])

end CertAudit.Certificate
