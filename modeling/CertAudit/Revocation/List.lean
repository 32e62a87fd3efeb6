/- Lists of revoked certificates. -/
import CertAudit.Certificate.Source
import CertAudit.Signature
namespace CertAudit

namespace Revocation

/-- The name of a reason by its code. Codes without a meaning count as unspecified. -/
def reasonName (code : Nat) : String :=
  match code with
  | 1 => "keyCompromise"
  | 2 => "cACompromise"
  | 3 => "affiliationChanged"
  | 4 => "superseded"
  | 5 => "cessationOfOperation"
  | 6 => "certificateHold"
  | 8 => "removeFromCRL"
  | 9 => "privilegeWithdrawn"
  | 10 => "aACompromise"
  | _ => "unspecified"

end Revocation

/-- A revoked certificate by its serial number. -/
structure RevokedEntry where
  serial : Bytes
  date : Timestamp
  reason : Option String
deriving Repr, DecidableEq

/-- A revocation list. The encoding is empty for one that was not read. -/
structure RevocationList where
  issuer : Name
  thisUpdate : Timestamp
  nextUpdate : Option Timestamp
  revoked : List RevokedEntry
  signatureAlgorithmOid : String := ""
  encoding : Bytes := []
deriving Repr, DecidableEq

/-- Whether an instant lies behind the announced next update. -/
def isPast (nextUpdate : Option Timestamp) (now : Timestamp) : Bool :=
  match nextUpdate with
  | some next => next.before now
  | none => false

namespace RevocationList

/-- Whether the next list is due. -/
def isExpired (l : RevocationList) (now : Timestamp) : Bool := isPast l.nextUpdate now

/-- Whether the list has been issued and the next one is not due. -/
def isCurrent (l : RevocationList) (now : Timestamp) : Bool :=
  l.thisUpdate.notAfter now && !l.isExpired now

/-- Whether the list is of the issuer of a certificate. -/
def covers (l : RevocationList) (c : Certificate) : Bool := Certificate.sameName l.issuer c.issuer

/-- The entry for a serial number. -/
def find? (l : RevocationList) (serial : Bytes) : Option RevokedEntry :=
  l.revoked.find? fun r => r.serial == Bytes.stripLeadingZeros serial

/-- The reason an extension of an entry gives, if its code is one of those that are assigned. -/
def reasonOf? (e : Extension) : Option String := do
  let (code, _) ← Der.readTagged Der.Tag.enumerated e.content
  let n := Bytes.toNat code.content
  if code.constructed ∨ n > 10 then none else some (Revocation.reasonName n)

/-- Reads one entry. -/
def readEntry (bs : Bytes) : Option (RevokedEntry × Bytes) := do
  let (content, rest) ← Der.readContent Der.Tag.sequence bs
  let (serial, content) ← CertificateBody.readSerial content
  let (date, content) ← Der.readTime content
  let extensions := match Extension.readList content with
    | some (extensions, _) => extensions
    | none => []
  let reason := (extensions.find? fun e => e.oid == Identifiers.reasonCode).bind reasonOf?
  some ({ serial := Bytes.stripLeadingZeros serial, date, reason }, rest)

/-- Reads the entries, if they come next. -/
def readEntries (bs : Bytes) : List RevokedEntry × Bytes :=
  (Der.readSequenceOf readEntry bs).getD ([], bs)

/-- Reads what the signature covers. -/
def readBody (bs : Bytes) : Option RevocationList := do
  let bs := match Der.readUInt32 bs with
    | some (_, rest) => rest
    | none => bs
  let (_, bs) ← AlgorithmId.read bs
  let (issuer, bs) ← Name.read bs
  let (thisUpdate, bs) ← Der.readTime bs
  let (nextUpdate, bs) := match Der.readTime bs with
    | some (t, rest) => (some t, rest)
    | none => (none, bs)
  let (revoked, bs) := readEntries bs
  let _ ← Extension.readTagged 0 bs
  some { issuer, thisUpdate, nextUpdate, revoked }

/-- Reads a list with its signature, and the bytes behind it. -/
def readSigned (bs : Bytes) : Option ((RevocationList × SignedBytes) × Bytes) :=
  SignedBytes.read readBody bs

/-- Whether the key of a certificate made the signature of the list. -/
def isSignedBy (l : RevocationList) (issuer : Certificate) : Bool :=
  match readSigned l.encoding with
  | none => false
  | some ((_, bytes), _) => issuer.signed bytes

/-- The list an encoding begins with. -/
def ofEncoding (bs : Bytes) : Except Failure RevocationList :=
  match readSigned bs with
  | none => .error (.revocation .list)
  | some ((l, signed), rest) =>
    .ok { l with
      signatureAlgorithmOid := Oid.ofContent signed.algorithm.oid
      encoding := bs.take (bs.length - rest.length) }

/-- The lists in blocks of armored text. What follows a block that cannot be read is passed over,
if a list came before. -/
def ofArmor (bs : Bytes) : Except Failure (List RevocationList) := do
  let (blocks, broken) := Armor.blocks bs
  let lists ← (blocks.filter fun b => b.label == "X509 CRL").mapM fun b => ofEncoding b.content
  if !lists.isEmpty then .ok lists
  else if broken then .error (.armor .lists)
  else .error (.armor .noLists)

/-- The lists of armored text, or the one of a bare encoding. -/
def ofBytes (bs : Bytes) : Except Failure (List RevocationList) :=
  if Armor.isArmored bs then ofArmor bs else (ofEncoding bs).map ([·])

end RevocationList
end CertAudit
