/- Addresses of the Internet Protocol, versions 4 and 6. -/
import CertAudit.Text.Hex
import CertAudit.Number.Literal
import CertAudit.Text.Split
namespace CertAudit

/-- Four or sixteen octets. -/
structure IpAddress where
  octets : Bytes
  width : octets.length = 4 ∨ octets.length = 16
deriving DecidableEq

namespace IpAddress

/-- The address with given octets, if their number fits. -/
def ofBytes? (bs : Bytes) : Option IpAddress :=
  if h : bs.length = 4 ∨ bs.length = 16 then some ⟨bs, h⟩ else none

/-- Four octets with points between them. -/
def dottedQuad (bs : Bytes) : String := ".".intercalate (bs.map fun b => Nat.repr b.toNat)

/-- Octets two by two, as numbers. -/
def groups : Bytes → List Nat
  | a :: b :: rest => (a.toNat * 256 + b.toNat) :: groups rest
  | _ => []

/-- Groups in hexadecimal with colons between them. -/
def joinGroups (gs : List Nat) : String :=
  ":".intercalate (gs.map fun g => String.ofList (Nat.toDigits 16 g))

/-- The length of the run of zeros a list begins with. -/
def zeroRun (gs : List Nat) : Nat := (gs.takeWhile (· == 0)).length

/-- The start and the length of the first longest run of zeros. -/
def longestZeroRun (gs : List Nat) : Nat × Nat :=
  (List.range gs.length).foldl (fun best i =>
    let n := zeroRun (gs.drop i)
    if n > best.2 then (i, n) else best) (0, 0)

/-- Text of eight groups: the longest run of two or more zero groups is left out. -/
def sixText (bs : Bytes) : String :=
  let gs := groups bs
  if gs.take 6 == [0, 0, 0, 0, 0, 0xffff] then "::ffff:" ++ dottedQuad (bs.drop 12)
  else
    let (start, length) := longestZeroRun gs
    if length > 1 then joinGroups (gs.take start) ++ "::" ++ joinGroups (gs.drop (start + length))
    else joinGroups gs

/-- The usual text of an address. -/
def display (a : IpAddress) : String :=
  if a.octets.length = 4 then dottedQuad a.octets else sixText a.octets

/-- One decimal octet without needless zeros. -/
def octet? (cs : List Char) : Option UInt8 := do
  let n ← Literal.natIn? 10 cs
  if n < 256 ∧ cs.length ≤ 3 ∧ (cs.length = 1 ∨ cs.head? ≠ some '0') then some (UInt8.ofNat n)
  else none

/-- Reads four octets with points between them. -/
def quad? (cs : List Char) : Option Bytes := do
  let os ← (CharList.split '.' cs).mapM octet?
  if os.length = 4 then some os else none

/-- The two octets of a group. -/
def group? (cs : List Char) : Option Bytes := do
  let n ← Literal.natIn? 16 cs
  if cs.length ≤ 4 then some [UInt8.ofNat (n / 256), UInt8.ofNat (n % 256)] else none

/-- Reads groups with colons between them, the last of which may be four decimal octets. -/
def groups? (cs : List Char) : Option Bytes :=
  if cs.isEmpty then some []
  else
    let parts := CharList.split ':' cs
    match parts.getLast? with
    | none => none
    | some last => do
      let front ← parts.dropLast.mapM group?
      let tail ← if last.contains '.' then quad? last else group? last
      some (front.flatten ++ tail)

/-- Where two colons stand side by side, the text before and behind them. -/
def splitAtGap : List Char → Option (List Char × List Char)
  | ':' :: ':' :: rest => some ([], rest)
  | c :: rest => (splitAtGap rest).map fun (a, b) => (c :: a, b)
  | [] => none

/-- Reads the text of an address. -/
def ofText? (s : String) : Option IpAddress :=
  let cs := s.toList
  match quad? cs with
  | some os => ofBytes? os
  | none =>
    match splitAtGap cs with
    | none => (groups? cs).bind fun os => if os.length = 16 then ofBytes? os else none
    | some (front, back) => do
      let a ← groups? front
      let b ← groups? back
      if front.contains '.' ∨ a.length + b.length > 14 then none
      else ofBytes? (a ++ List.replicate (16 - a.length - b.length) 0 ++ b)

end IpAddress
end CertAudit
