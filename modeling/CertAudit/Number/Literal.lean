/- Reading numerals. -/
import CertAudit.Number.Binary64
namespace CertAudit.Literal

/-- Whether a character is an ASCII digit. -/
def isDigit (c : Char) : Bool := '0' ≤ c && c ≤ '9'

/-- The number a run of decimal digits stands for. -/
def digitsNat (cs : List Char) : Nat := cs.foldl (fun n c => n * 10 + (c.toNat - 48)) 0

/-- An exponent mark with its sign and at least one digit, or nothing at all. -/
def exponent? : List Char → Option Int
  | [] => some 0
  | c :: rest =>
    if c == 'e' || c == 'E' then
      let (negative, ds) := match rest with
        | '+' :: ds => (false, ds)
        | '-' :: ds => (true, ds)
        | ds => (false, ds)
      if ds.isEmpty || !ds.all isDigit then none
      else
        let n : Int := digitsNat ds
        some (if negative then -n else n)
    else none

/-- Reads an unsigned decimal: digits, a point and digits, with at least one digit in all, and
an exponent. -/
def unsigned? (negative : Bool) (cs : List Char) : Option Binary64 := do
  let (whole, rest) := cs.span isDigit
  let (fraction, rest) := match rest with
    | '.' :: more => more.span isDigit
    | _ => ([], rest)
  if whole.isEmpty && fraction.isEmpty then none
  else
    let e ← exponent? rest
    return Binary64.ofDecimal negative (digitsNat (whole ++ fraction)) (e - fraction.length)

/-- Reads a double: an optional sign before a decimal or, in any case of letters, before `inf`,
`infinity` or `nan`. -/
def binary64? (s : String) : Option Binary64 :=
  let (negative, cs) := match s.toList with
    | '+' :: cs => (false, cs)
    | '-' :: cs => (true, cs)
    | cs => (false, cs)
  match String.ofList (cs.map Char.toLower) with
  | "nan" => some .nan
  | "inf" => some (.infinity negative)
  | "infinity" => some (.infinity negative)
  | _ => unsigned? negative cs

/-- The value of a digit in a base up to sixteen. -/
def digitIn? (base : Nat) (c : Char) : Option Nat :=
  let v := if isDigit c then some (c.toNat - 48)
    else if 'a' ≤ c && c ≤ 'f' then some (c.toNat - 87)
    else if 'A' ≤ c && c ≤ 'F' then some (c.toNat - 55)
    else none
  v.filter (· < base)

/-- Reads one or more digits of a base. -/
def natIn? (base : Nat) (cs : List Char) : Option Nat :=
  if cs.isEmpty then none
  else cs.foldlM (fun n c => (digitIn? base c).map (n * base + ·)) 0

/-- Reads digits of a base behind an optional sign. -/
def intIn? (base : Nat) : List Char → Option Int
  | '+' :: cs => (natIn? base cs).map Int.ofNat
  | '-' :: cs => (natIn? base cs).map fun n => -Int.ofNat n
  | cs => (natIn? base cs).map Int.ofNat

end CertAudit.Literal
