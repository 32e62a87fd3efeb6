/- Signatures with RSA keys, by the first scheme of PKCS #1. -/
import CertAudit.Der.Integer
import CertAudit.Digest
import CertAudit.Number.Modular
namespace CertAudit.Rsa

/-- A public key. -/
structure Key where
  modulus : Nat
  exponent : Nat
deriving Repr, DecidableEq

/-- The number of bytes before a content of some length in the shortest header. -/
def shortestHeader (length : Nat) : Nat :=
  if length < 128 then 2 else if length < 256 then 3 else 4

/-- Reads an element whose header is the shortest. -/
def readShortest (bs : Bytes) : Option (Der.Element × Bytes) := do
  let (e, rest) ← Der.read bs
  if bs.length = shortestHeader e.content.length + e.content.length + rest.length then
    some (e, rest)
  else none

/-- Reads a positive integer in its one form. -/
def readPositive (bs : Bytes) : Option (Nat × Bytes) := do
  let (e, rest) ← readShortest bs
  let v := Der.signedValue e.content
  if e = ⟨.universal, false, Der.Tag.integer, e.content⟩ ∧ Der.isMinimal e.content ∧ 0 < v then
    some (v.toNat, rest)
  else none

/-- Reads two positive integers that fill a sequence, which fills the bytes. -/
def readPair (bs : Bytes) : Option (Nat × Nat) := do
  let (e, rest) ← readShortest bs
  if e.tagClass ≠ .universal ∨ e.tag ≠ Der.Tag.sequence ∨ !e.constructed ∨ !rest.isEmpty then none
  else
    let (a, content) ← readPositive e.content
    let (b, content) ← readPositive content
    if content.isEmpty then some (a, b) else none

/-- The number of bytes of a modulus. -/
def Key.width (k : Key) : Nat := k.modulus.log2 / 8 + 1

/-- Reads a key whose modulus has at least `minBytes` and at most 1024 bytes. -/
def Key.read (minBytes : Nat) (bs : Bytes) : Option Key := do
  let (modulus, exponent) ← readPair bs
  let k : Key := { modulus, exponent }
  if minBytes ≤ k.width ∧ modulus.log2 < 8192 ∧ modulus % 2 = 1 ∧ exponent % 2 = 1 ∧
      3 ≤ exponent ∧ exponent < Nat.pow 2 33 then some k
  else none

/-- The number that a signature stands for under a key. -/
def Key.open? (k : Key) (signature : Bytes) : Option Nat :=
  let s := Bytes.toNat signature
  if signature.length = k.width ∧ s < k.modulus then
    some (Modular.pow s k.exponent k.modulus)
  else none

/-- What stands before a digest to name its algorithm. -/
def digestHeader : DigestAlgorithm → Bytes
  | .sha1 => [0x30, 0x21, 0x30, 0x09, 0x06, 0x05, 0x2b, 0x0e, 0x03, 0x02, 0x1a, 0x05, 0x00,
      0x04, 0x14]
  | .sha256 => [0x30, 0x31, 0x30, 0x0d, 0x06, 0x09, 0x60, 0x86, 0x48, 0x01, 0x65, 0x03, 0x04,
      0x02, 0x01, 0x05, 0x00, 0x04, 0x20]
  | .sha384 => [0x30, 0x41, 0x30, 0x0d, 0x06, 0x09, 0x60, 0x86, 0x48, 0x01, 0x65, 0x03, 0x04,
      0x02, 0x02, 0x05, 0x00, 0x04, 0x30]
  | .sha512 => [0x30, 0x51, 0x30, 0x0d, 0x06, 0x09, 0x60, 0x86, 0x48, 0x01, 0x65, 0x03, 0x04,
      0x02, 0x03, 0x05, 0x00, 0x04, 0x40]

/-- The padded digest of a message, as wide as the modulus. -/
def paddedDigest (algorithm : DigestAlgorithm) (width : Nat) (message : Bytes) : Bytes :=
  let info := digestHeader algorithm ++ Digest.compute algorithm message
  0 :: 1 :: (List.replicate (width - info.length - 3) 0xff ++ 0 :: info)

/-- Whether a signature fits a message. -/
def verify (algorithm : DigestAlgorithm) (key message signature : Bytes) : Bool :=
  let minBytes := if algorithm = .sha1 then 128 else 256
  match Key.read minBytes key with
  | none => false
  | some k => k.open? signature == some (Bytes.toNat (paddedDigest algorithm k.width message))

end CertAudit.Rsa
