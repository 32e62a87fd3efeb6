/- Integers, booleans, bit strings and octet strings. -/
import CertAudit.Der.Element
namespace CertAudit.Der

/-- Whether the content of an integer is the shortest for its value. -/
def isMinimal : Bytes → Bool
  | [] => false
  | [_] => true
  | a :: b :: _ => !(a == 0 && b.toNat < 128) && !(a == 0xff && b.toNat ≥ 128)

/-- The value of the content of an integer, in two's complement. -/
def signedValue (bs : Bytes) : Int :=
  match bs with
  | [] => 0
  | b :: _ =>
    if b.toNat ≥ 128 then (Bytes.toNat bs : Int) - Nat.pow 256 bs.length else Bytes.toNat bs

/-- The value of the content of a minimal integer from zero to the largest of 32 bits. -/
def uint32? (content : Bytes) : Option Nat :=
  let v := signedValue content
  if !isMinimal content || v < 0 || v ≥ UInt32.size then none else some v.toNat

/-- Reads an integer of 32 bits without a sign. -/
def readUInt32 (bs : Bytes) : Option (Nat × Bytes) := do
  let (e, rest) ← readTagged Tag.integer bs
  if e.constructed then none else (uint32? e.content).map (·, rest)

/-- Whether the unused bits at the end of the content of a bit string are zero. -/
def unusedBitsZero : Bytes → Bool
  | [] => false
  | [unused] => unused == 0
  | unused :: bits =>
    let last := (bits.getLastD 0).toNat
    unused.toNat ≤ 8 && last % Nat.pow 2 unused.toNat == 0

/-- Reads a bit string as whole bytes. -/
def readBitString (bs : Bytes) : Option (Bytes × Bytes) := do
  let (e, rest) ← readTagged Tag.bitString bs
  if e.constructed || !unusedBitsZero e.content then none
  else some (e.content.drop 1, rest)

/-- Reads an octet string. -/
def readOctetString (bs : Bytes) : Option (Bytes × Bytes) := do
  let (e, rest) ← readTagged Tag.octetString bs
  if e.constructed then none else some (e.content, rest)

/-- A boolean, if one comes next: any byte but zero is true. -/
def readFlag (bs : Bytes) : Bool × Bytes :=
  match readTagged Tag.boolean bs with
  | some (e, rest) =>
    match e.content with
    | [b] => (b != 0, rest)
    | _ => (false, bs)
  | none => (false, bs)

end CertAudit.Der
