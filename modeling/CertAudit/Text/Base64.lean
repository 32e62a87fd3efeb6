/- Padded base64 of RFC 4648, reading only the canonical spelling of each group. -/
import CertAudit.Bytes
namespace CertAudit.Base64

/-- The six bits a base64 letter stands for. -/
def digitValue? (b : UInt8) : Option Nat :=
  let n := b.toNat
  if 65 ≤ n ∧ n ≤ 90 then some (n - 65)
  else if 97 ≤ n ∧ n ≤ 122 then some (n - 71)
  else if 48 ≤ n ∧ n ≤ 57 then some (n + 4)
  else if n = 43 then some 62
  else if n = 47 then some 63
  else none

/-- The sign that fills up a last group. -/
def padding : UInt8 := 61

/-- The bytes of one group of four signs: three, two with one padding sign, one with two.
Bits that no byte takes are zero. -/
def decodeGroup (a b c d : UInt8) : Option Bytes := do
  let p ← digitValue? a
  let q ← digitValue? b
  if c == padding then
    if d == padding ∧ q % 16 = 0 then
      return [UInt8.ofNat (p * 4 + q / 16)]
    else none
  else
    let r ← digitValue? c
    if d == padding then
      if r % 4 = 0 then
        return [UInt8.ofNat (p * 4 + q / 16), UInt8.ofNat (q % 16 * 16 + r / 4)]
      else none
    else
      let s ← digitValue? d
      return [UInt8.ofNat (p * 4 + q / 16), UInt8.ofNat (q % 16 * 16 + r / 4),
        UInt8.ofNat (r % 4 * 64 + s)]

/-- Reads groups one after another onto the bytes read so far, which stand in reverse. Where
`chained` is false only the last group may be padded. -/
def decodeOnto (chained : Bool) (read : Bytes) : Bytes → Option Bytes
  | [] => some read.reverse
  | a :: b :: c :: d :: rest =>
    match decodeGroup a b c d with
    | none => none
    | some group =>
      if !chained && d == padding && !rest.isEmpty then none
      else decodeOnto chained (group.reverse ++ read) rest
  | _ => none

/-- Reads a body whose last group alone may be padded. -/
def decode? (bs : Bytes) : Option Bytes := decodeOnto false [] bs

/-- Reads bodies that follow one another, each of which may end in a padded group. -/
def decodeChain? (bs : Bytes) : Option Bytes := decodeOnto true [] bs

/-- Reads a bare body, blanks anywhere in it left out. An empty body is none. -/
def decodeBody? (bs : Bytes) : Option Bytes :=
  match bs.filter fun b => !Bytes.isBlank b with
  | [] => none
  | compact => decode? compact

end CertAudit.Base64
