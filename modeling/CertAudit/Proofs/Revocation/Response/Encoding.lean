/- The encodings of successful answers whose responder is known by a key. -/
import CertAudit.Digest
import CertAudit.Proofs.Der.Encoding
import CertAudit.Proofs.Time.Compact
namespace CertAudit

/-- The encoding of an instant. -/
def WholeSecond.encoding (t : WholeSecond) : Bytes :=
  Der.encode 0x18 (Bytes.ofString (String.ofList (t.compactChars ++ ['Z'])))

/-- The content of a number that is not negative: a zero byte keeps the sign bit clear. -/
def Der.naturalContent (n : Nat) : Bytes :=
  if (Bytes.shortest n).headD 0 < 0x80 then Bytes.shortest n else 0 :: Bytes.shortest n

/-- The content of the identifier of a digest algorithm. -/
def DigestAlgorithm.content : DigestAlgorithm → Bytes
  | sha1 => [0x2b, 0x0e, 0x03, 0x02, 0x1a]
  | sha256 => [0x60, 0x86, 0x48, 0x01, 0x65, 0x03, 0x04, 0x02, 0x01]
  | sha384 => [0x60, 0x86, 0x48, 0x01, 0x65, 0x03, 0x04, 0x02, 0x02]
  | sha512 => [0x60, 0x86, 0x48, 0x01, 0x65, 0x03, 0x04, 0x02, 0x03]

namespace Revocation

/-- What a service says of a certificate. A reason is one of the codes up to 10. -/
inductive Standing
  | good
  | revoked (time : WholeSecond) (reason : Option (Fin 11))
  | unknown

/-- What a service says of the certificate with some issuer and serial number. Parameters may
follow the identifier of the algorithm that the hashes are made with. -/
structure Entry where
  algorithm : DigestAlgorithm
  parameters : Bytes
  issuerNameHash : Bytes
  issuerKeyHash : Bytes
  serial : Nat
  standing : Standing
  thisUpdate : WholeSecond
  nextUpdate : Option WholeSecond

/-- A signed answer of the holder of a key. -/
structure Answer where
  version : Option Nat
  keyHash : Bytes
  producedAt : WholeSecond
  entries : List Entry
  signatureAlgorithm : Bytes
  signature : Bytes

namespace Standing

/-- The reason of a revocation, where it is given. -/
def reasonEncoding : Option (Fin 11) → Bytes
  | none => []
  | some code => Der.encode 0xa0 (Der.encode 0x0a [UInt8.ofNat code])

def encoding : Standing → Bytes
  | good => Der.encode 0x80 []
  | revoked time reason => Der.encode 0xa1 (time.encoding ++ reasonEncoding reason)
  | unknown => Der.encode 0x82 []

end Standing

namespace Entry

/-- The hashes of the issuer and the serial number. -/
def idEncoding (e : Entry) : Bytes :=
  Der.encode 0x30 <|
    Der.encode 0x30 (Der.encode 0x06 e.algorithm.content ++ e.parameters) ++
      (Der.encode 0x04 e.issuerNameHash ++
        (Der.encode 0x04 e.issuerKeyHash ++ Der.encode 0x02 (Der.naturalContent e.serial)))

/-- The announced next update, if there is one. -/
def nextEncoding : Option WholeSecond → Bytes
  | none => []
  | some t => Der.encode 0xa0 t.encoding

def content (e : Entry) : Bytes :=
  e.idEncoding ++ (e.standing.encoding ++ (e.thisUpdate.encoding ++ nextEncoding e.nextUpdate))

def encoding (e : Entry) : Bytes := Der.encode 0x30 e.content

end Entry

namespace Answer

def versionEncoding : Option Nat → Bytes
  | none => []
  | some n => Der.encode 0xa0 (Der.encode 0x02 (Der.naturalContent n))

/-- The content of what is signed. -/
def bodyContent (a : Answer) : Bytes :=
  versionEncoding a.version ++
    (Der.encode 0xa2 (Der.encode 0x04 a.keyHash) ++
      (a.producedAt.encoding ++ Der.encode 0x30 (a.entries.flatMap Entry.encoding)))

/-- The signed answer. -/
def basicEncoding (a : Answer) : Bytes :=
  Der.encode 0x30 <|
    Der.encode 0x30 a.bodyContent ++
      (Der.encode 0x30 a.signatureAlgorithm ++ Der.encode 0x03 (0 :: a.signature))

/-- The signed answer in the envelope of a successful one. -/
def encoding (a : Answer) : Bytes :=
  Der.encode 0x30 <|
    Der.encode 0x0a [0] ++
      Der.encode 0xa0 (Der.encode 0x30
        (Der.encode 0x06 [0x2b, 0x06, 0x01, 0x05, 0x05, 0x07, 0x30, 0x01, 0x01] ++
          Der.encode 0x04 a.basicEncoding))

end Answer
end Revocation
end CertAudit
