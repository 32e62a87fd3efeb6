/- Decimal digits, the lowest first, and the decimal numerals of byte strings. -/
import CertAudit.Bytes
namespace CertAudit

namespace Digits

/-- Multiplies digits by 256 and adds a carry: each digit keeps the ones and hands on the rest. What
the highest one hands on stands beside the digits. -/
def shift (carry : UInt32) : List UInt8 → List UInt8 × UInt32
  | [] => ([], carry)
  | d :: rest =>
    let v := d.toUInt32 * 256 + carry
    let (higher, out) := shift (v / 10) rest
    ((v % 10).toUInt8 :: higher, out)

/-- The digits of a carry; zero has none. -/
def ofCarry (carry : UInt32) : List UInt8 :=
  if carry = 0 then [] else (carry % 10).toUInt8 :: ofCarry (carry / 10)
termination_by carry.toNat
decreasing_by
  have hpos : 0 < carry.toNat := Nat.pos_of_ne_zero fun h => ‹carry ≠ 0› (UInt32.toNat_inj.mp h)
  rw [UInt32.toNat_div]
  exact Nat.div_lt_self hpos (by decide)

/-- Appends a byte to the integer that digits stand for. -/
def append (digits : List UInt8) (b : UInt8) : List UInt8 :=
  let (shifted, carry) := shift b.toUInt32 digits
  shifted ++ ofCarry carry

/-- The digits of the unsigned big-endian integer a byte string spells. -/
def ofBytes (bs : Bytes) : List UInt8 := bs.foldl append [0]

/-- Drops zeros in front, keeping at least one digit. -/
def dropZeros : List UInt8 → List UInt8
  | 0 :: d :: rest => dropZeros (d :: rest)
  | digits => digits

/-- The sign of a digit. -/
def sign (d : UInt8) : Char := Char.ofUInt8 (48 + d)

end Digits

/-- The decimal numeral of the unsigned big-endian integer a byte string spells. -/
def Bytes.toDecimal (bs : Bytes) : String :=
  String.ofList ((Digits.dropZeros (Digits.ofBytes bs).reverse).map Digits.sign)

end CertAudit
