/- Reading certificates from their encodings. -/
import CertAudit.Certificate.Extension
import CertAudit.Der.Time
namespace CertAudit

/-- An algorithm: the content of its identifier, and its parameters. -/
structure AlgorithmId where
  oid : Bytes
  parameters : Option Der.Element := none
deriving Repr, DecidableEq, Inhabited

/-- Reads an algorithm. What comes behind its identifier has to be an element. -/
def AlgorithmId.read (bs : Bytes) : Option (AlgorithmId × Bytes) := do
  let (content, rest) ← Der.readContent Der.Tag.sequence bs
  let (oid, content) ← Oid.read content
  if content.isEmpty then some ({ oid }, rest)
  else (Der.read content).map fun (e, _) => ({ oid, parameters := some e }, rest)

/-- A public key as it is encoded: its algorithm and its bits. -/
structure EncodedKey where
  algorithm : AlgorithmId
  bits : Bytes
deriving Repr, DecidableEq, Inhabited

namespace EncodedKey

/-- Reads a public key. -/
def read (bs : Bytes) : Option (EncodedKey × Bytes) := do
  let (content, rest) ← Der.readContent Der.Tag.sequence bs
  let (algorithm, content) ← AlgorithmId.read content
  let (bits, _) ← Der.readBitString content
  some ({ algorithm, bits }, rest)

/-- The size of the modulus in bits, and the exponent. -/
def rsaParameters? (bits : Bytes) : Option (Nat × Nat) := do
  let (e, _) ← Der.read bits
  if e.tagClass ≠ .universal then none
  match ← Der.readElements bits with
  | (n :: e :: _, _) =>
    let modulus ← n.integer?
    let exponent ← e.number?
    some ((Bytes.bitLength (Bytes.bigEndian modulus.natAbs)).toNat, exponent)
  | _ => none

/-- The name of the curve that parameters choose. Their content counts, whatever its form. -/
def curveName : Option Der.Element → String
  | some e => Identifiers.nameIn Identifiers.curveNames (Oid.ofContent e.content)
  | none => "unknown"

/-- The number of bits of the named curves. -/
def curveBits? : String → Option Nat
  | "P-256" => some 256
  | "P-384" => some 384
  | "P-521" => some 521
  | _ => none

/-- What a key is for. -/
def kind (k : EncodedKey) : KeyAlgorithm :=
  let oid := Oid.ofContent k.algorithm.oid
  if oid = Identifiers.rsaEncryption then
    match rsaParameters? k.bits with
    | some (bits, exponent) => .rsa bits exponent
    | none => .unknown oid
  else if oid = Identifiers.ecPublicKey then
    let curve := curveName k.algorithm.parameters
    .ec curve (curveBits? curve)
  else if oid = Identifiers.ed25519 then .ed25519
  else if oid = Identifiers.ed448 then .ed448
  else .unknown oid

end EncodedKey

/-- Bytes with a signature over them. -/
structure SignedBytes where
  body : Bytes
  algorithm : AlgorithmId
  signature : Bytes
deriving Repr, DecidableEq, Inhabited

namespace SignedBytes

/-- Reads a body by its own reader, then the algorithm and the signature. -/
def read {α : Type} (fields : Bytes → Option α) (bs : Bytes) :
    Option ((α × SignedBytes) × Bytes) := do
  let (content, rest) ← Der.readContent Der.Tag.sequence bs
  let (body, tail) ← Der.readContent Der.Tag.sequence content
  let value ← fields body
  let signed := content.take (content.length - tail.length)
  let (algorithm, tail) ← AlgorithmId.read tail
  let (signature, _) ← Der.readBitString tail
  some ((value, { body := signed, algorithm, signature }), rest)

end SignedBytes

/-- The fields of a certificate that its signature covers. -/
structure CertificateBody where
  version : Nat
  serial : Bytes
  issuer : Name
  notBefore : Timestamp
  notAfter : Timestamp
  subject : Name
  key : EncodedKey
  extensions : List Extension

namespace CertificateBody

/-- The version behind its tag; a certificate without one has the first. -/
def readVersion (bs : Bytes) : Option (Nat × Bytes) := do
  let (field, rest) ← Der.readOptional 0 bs
  match field with
  | none => some (0, rest)
  | some e => (Der.readUInt32 e.content).map fun (v, _) => (v, rest)

/-- Reads a serial number of any form. -/
def readSerial (bs : Bytes) : Option (Bytes × Bytes) := do
  let (e, rest) ← Der.readOpen bs
  if e.tag = Der.Tag.integer then some (e.content, rest) else none

/-- Reads the first and the last instant of validity. -/
def readValidity (bs : Bytes) : Option ((Timestamp × Timestamp) × Bytes) := do
  let (content, rest) ← Der.readContent Der.Tag.sequence bs
  let (first, content) ← Der.readTime content
  let (last, _) ← Der.readTime content
  some ((first, last), rest)

/-- Skips an identifier of the issuer or the subject, whatever its bits. What cannot be read is
left for the reader of extensions. -/
def skipUniqueId (tag : Nat) (bs : Bytes) : Option Bytes :=
  match Der.readOptional tag bs with
  | none => some bs
  | some (none, rest) => some rest
  | some (some e, rest) => if e.content.isEmpty then none else some rest

/-- Reads the signed fields one after another. -/
def read (bs : Bytes) : Option CertificateBody := do
  let (version, bs) ← readVersion bs
  let (serial, bs) ← readSerial bs
  let (_, bs) ← AlgorithmId.read bs
  let (issuer, bs) ← Name.read bs
  let ((notBefore, notAfter), bs) ← readValidity bs
  let (subject, bs) ← Name.read bs
  let (key, bs) ← EncodedKey.read bs
  let bs ← skipUniqueId 1 bs
  let bs ← skipUniqueId 2 bs
  let extensions ← Extension.readTagged 3 bs
  some { version, serial, issuer, notBefore, notAfter, subject, key, extensions }

end CertificateBody

/-- Reads the signed fields of a certificate with their signature, and the bytes behind it. -/
def readSignedCertificate (bs : Bytes) : Option ((CertificateBody × SignedBytes) × Bytes) :=
  SignedBytes.read CertificateBody.read bs

namespace Certificate

/-- A certificate of a version that is known, made of what was read. -/
def ofParts (body : CertificateBody) (signed : SignedBytes) (encoding : Bytes) : Certificate :=
  let oid := Oid.ofContent signed.algorithm.oid
  { version := body.version + 1
    serial := Bytes.stripLeadingZeros body.serial
    signatureAlgorithm := Identifiers.nameIn Identifiers.signatureNames oid
    signatureAlgorithmOid := oid
    issuer := body.issuer
    subject := body.subject
    notBefore := body.notBefore
    notAfter := body.notAfter
    publicKey := { algorithm := body.key.kind, bits := body.key.bits }
    extensions := body.extensions
    encoding }

end Certificate
end CertAudit
