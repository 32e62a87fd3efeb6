/- Byte strings, and the unsigned big-endian integers they spell. -/
namespace CertAudit

/-- A byte string. -/
abbrev Bytes := List UInt8

namespace Bytes

/-- The UTF-8 encoding of a text. -/
def ofString (s : String) : Bytes := s.toUTF8.data.toList

/-- The text a byte string encodes in UTF-8, if it does. -/
def toString? (bs : Bytes) : Option String := String.fromUTF8? ⟨bs.toArray⟩

/-- The unsigned big-endian integer a byte string spells. -/
def toNat (bs : Bytes) : Nat := bs.foldl (fun n b => n * 256 + b.toNat) 0

/-- The low `width` bytes of an integer, most significant first. -/
def ofNat (width n : Nat) : Bytes :=
  (List.range width).reverse.map fun i => UInt8.ofNat (n / Nat.pow 256 i)

/-- Drops leading zero bytes, keeping at least one byte of a byte string that has one. -/
def stripLeadingZeros (bs : Bytes) : Bytes :=
  match bs.dropWhile (· == 0) with
  | [] => bs.drop (bs.length - 1)
  | rest => rest

/-- The bytes of an integer, the least significant first and none of them superfluous. -/
def littleEndian (n : Nat) : Bytes :=
  if n < 256 then [UInt8.ofNat n] else UInt8.ofNat n :: littleEndian (n / 256)
termination_by n
decreasing_by exact Nat.div_lt_self (by omega) (by decide)

/-- The bytes of an integer, the most significant first and none of them superfluous. -/
def bigEndian (n : Nat) : Bytes := (littleEndian n).reverse

/-- The number of zero bits that a byte begins with. -/
def leadingZeros (b : UInt8) : UInt32 := UInt32.ofNat b.toBitVec.clz.toNat

/-- The number of bits of the unsigned big-endian integer a byte string spells: those of the first
byte that is not superfluous, and eight for each byte behind it. It wraps at 32 bits. -/
def bitLength (bs : Bytes) : UInt32 :=
  let significant := stripLeadingZeros bs
  let leading := match significant with
    | [] => 0
    | b :: _ => 8 - leadingZeros b
  UInt32.ofNat (significant.length - 1) * 8 + leading

/-- Blanks of ASCII text: space, tab, line feed, form feed, carriage return. -/
def isBlank (b : UInt8) : Bool :=
  b == 0x20 || b == 0x09 || b == 0x0a || b == 0x0c || b == 0x0d

end Bytes
end CertAudit
