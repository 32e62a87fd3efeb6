/- Hexadecimal spellings of byte strings. -/
import CertAudit.Bytes
namespace CertAudit.Hex

/-- The lowercase hexadecimal digit of a value below sixteen. -/
def lowerDigit (n : Nat) : Char :=
  if n < 10 then Char.ofNat (48 + n) else Char.ofNat (87 + n)

/-- The uppercase hexadecimal digit of a value below sixteen. -/
def upperDigit (n : Nat) : Char :=
  if n < 10 then Char.ofNat (48 + n) else Char.ofNat (55 + n)

/-- The value of a hexadecimal digit of either case. -/
def digitValue? (c : Char) : Option Nat :=
  if '0' ≤ c ∧ c ≤ '9' then some (c.toNat - 48)
  else if 'a' ≤ c ∧ c ≤ 'f' then some (c.toNat - 87)
  else if 'A' ≤ c ∧ c ≤ 'F' then some (c.toNat - 55)
  else none

/-- Two lowercase digits a byte. -/
def lowerChars (bs : Bytes) : List Char :=
  bs.flatMap fun b => [lowerDigit (b.toNat / 16), lowerDigit (b.toNat % 16)]

/-- Two uppercase digits a byte, a colon between bytes. -/
def colonChars : Bytes → List Char
  | [] => []
  | [b] => [upperDigit (b.toNat / 16), upperDigit (b.toNat % 16)]
  | b :: rest =>
    upperDigit (b.toNat / 16) :: upperDigit (b.toNat % 16) :: ':' :: colonChars rest

/-- The spelling `0aff`. -/
def lower (bs : Bytes) : String := String.ofList (lowerChars bs)

/-- The spelling `0A:FF`. -/
def colonUpper (bs : Bytes) : String := String.ofList (colonChars bs)

/-- Whether a text spells a byte string, colons and the case of ASCII letters aside. -/
def spells (bs : Bytes) (s : String) : Bool :=
  (s.toList.filter (· != ':')).map Char.toLower == lowerChars bs

/-- The bytes that pairs of hexadecimal digits spell. -/
def decodeChars : List Char → Option Bytes
  | [] => some []
  | a :: b :: rest => do
    let hi ← digitValue? a
    let lo ← digitValue? b
    let tail ← decodeChars rest
    return UInt8.ofNat (hi * 16 + lo) :: tail
  | [_] => none

/-- The bytes a text of pairs of hexadecimal digits spells. -/
def decode? (s : String) : Option Bytes := decodeChars s.toList

end CertAudit.Hex
