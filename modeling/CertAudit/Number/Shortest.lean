/- The shortest decimals that read back as a double, and ways to write them. -/
import CertAudit.Number.Binary64
namespace CertAudit

/-- A positive decimal `digits * 10 ^ exponent`. -/
structure Decimal where
  digits : Nat
  exponent : Int
deriving Repr, DecidableEq

/-- Which of two equally near decimals is taken. -/
inductive Tie where
  /-- The one further from zero. -/
  | away
  /-- The one with an even last digit. -/
  | even
deriving Repr, DecidableEq

/-- Whether the lower of two equally near decimals is taken, given its digits. -/
def Tie.takesLower : Tie → Nat → Bool
  | .away, _ => false
  | .even, digits => digits % 2 == 0

namespace Decimal

/-- Drops zeros at the end of the digits. -/
def dropZeros (digits : Nat) (exponent : Int) : Nat → Decimal
  | 0 => ⟨digits, exponent⟩
  | fuel + 1 =>
    if digits % 10 = 0 ∧ digits ≠ 0 then dropZeros (digits / 10) (exponent + 1) fuel
    else ⟨digits, exponent⟩

/-- The distance of `digits * 10 ^ exponent` from `m * 2 ^ e`, in units of `1 / den`. -/
def distance (m : Nat) (e : Int) (digits : Nat) (exponent : Int) : Nat :=
  let twoUp := Nat.pow 2 e.toNat
  let twoDown := Nat.pow 2 (-e).toNat
  let tenUp := Nat.pow 10 exponent.toNat
  let tenDown := Nat.pow 10 (-exponent).toNat
  let a := m * twoUp * tenDown
  let b := digits * tenUp * twoDown
  if a ≤ b then b - a else a - b

/-- The integer part of `m * 2 ^ e / 10 ^ exponent`. -/
def scaled (m : Nat) (e : Int) (exponent : Int) : Nat :=
  (m * Nat.pow 2 e.toNat * Nat.pow 10 (-exponent).toNat) /
    (Nat.pow 2 (-e).toNat * Nat.pow 10 exponent.toNat)

/-- The nearer of the two neighbours of a double on the grid of `10 ^ exponent` that read back
as it. -/
def onGrid? (tie : Tie) (m : Nat) (e : Int) (exponent : Int) : Option Decimal :=
  let low := scaled m e exponent
  let reads := fun d => Binary64.ofDecimal false d exponent == Binary64.finite false m e
  let lowReads := low ≠ 0 && reads low
  let highReads := reads (low + 1)
  let lowGap := distance m e low exponent
  let highGap := distance m e (low + 1) exponent
  if lowReads && (!highReads || lowGap < highGap || (lowGap == highGap && tie.takesLower low)) then
    some ⟨low, exponent⟩
  else if highReads then some ⟨low + 1, exponent⟩
  else none

/-- The decimal with the fewest digits that reads back as the double `m * 2 ^ e`, the nearest to
it of those. -/
def shortest (tie : Tie) (m : Nat) (e : Int) : Decimal :=
  let width : Int := (Nat.toDigits 10 (scaled m e 0)).length
  let top : Int := if scaled m e 0 ≠ 0 then width else leading 400 0
  let found := (List.range 18).findSome? fun (n : Nat) => onGrid? tie m e (top - n)
  match found with
  | some d => dropZeros d.digits d.exponent 20
  | none => dropZeros (scaled m e (top - 17)) (top - 17) 20
where
  /-- The power of ten above a number below one. -/
  leading : Nat → Int → Int
    | 0, k => k
    | fuel + 1, k => if scaled m e (k - 1) ≠ 0 then k else leading fuel (k - 1)

/-- The digits as text. -/
def digitChars (d : Decimal) : List Char := Nat.toDigits 10 d.digits

/-- Writes digits and a power of ten without an exponent. -/
def positional (d : Decimal) : List Char :=
  let ds := d.digitChars
  if d.exponent ≥ 0 then ds ++ List.replicate d.exponent.toNat '0'
  else
    let places := (-d.exponent).toNat
    if places < ds.length then
      ds.take (ds.length - places) ++ '.' :: ds.drop (ds.length - places)
    else '0' :: '.' :: (List.replicate (places - ds.length) '0' ++ ds)

/-- Writes one digit before the point and a signed exponent. -/
def scientific (d : Decimal) : List Char :=
  let ds := d.digitChars
  let power := d.exponent + (ds.length - 1 : Int)
  let mantissa := match ds with
    | [] => []
    | [c] => [c]
    | c :: rest => c :: '.' :: rest
  mantissa ++ 'e' :: (if power < 0 then '-' else '+') :: Nat.toDigits 10 power.natAbs

end Decimal

namespace Binary64

/-- The sign before a number. -/
def signChars (negative : Bool) : List Char := if negative then ['-'] else []

/-- Plain text: never an exponent, no fraction where there is none, a tie away from zero, `NaN`
and `inf`. -/
def display : Binary64 → String
  | .nan => "NaN"
  | .infinity s => String.ofList (signChars s ++ ['i', 'n', 'f'])
  | .finite s m e =>
    String.ofList (signChars s ++
      if m = 0 then ['0'] else (Decimal.shortest .away m e).positional)

/-- The text in a data document: a fraction always, an exponent below `10 ^ -5` and from
`10 ^ 16` on, a tie to the even digit. Only finite numbers have one. -/
def document? : Binary64 → Option String
  | .nan => none
  | .infinity _ => none
  | .finite s m e =>
    some <| String.ofList <| signChars s ++
      if m = 0 then ['0', '.', '0']
      else
        let d := Decimal.shortest .even m e
        let power := d.exponent + (d.digitChars.length - 1 : Int)
        if power < -5 ∨ power ≥ 16 then d.scientific
        else if d.exponent ≥ 0 then d.positional ++ ['.', '0']
        else d.positional

end Binary64
end CertAudit
