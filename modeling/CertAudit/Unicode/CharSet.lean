/- Sets of code points, kept as ranges in increasing order that neither meet nor touch. -/
import CertAudit.Text.Hex
import CertAudit.Text.Split
namespace CertAudit.Unicode

/-- A set of code points. Each pair holds the first and the last point of a range. -/
structure CharSet where
  ranges : List (Nat × Nat)
deriving Repr, DecidableEq, Inhabited

namespace CharSet

/-- The largest code point. -/
def last : Nat := 0x10FFFF

/-- No code point. -/
def empty : CharSet := ⟨[]⟩

/-- Every code point. -/
def full : CharSet := ⟨[(0, last)]⟩

/-- The code points from `lo` to `hi`, none if they stand the other way round. -/
def range (lo hi : Nat) : CharSet := if lo ≤ hi then ⟨[(lo, hi)]⟩ else empty

/-- One code point. -/
def single (n : Nat) : CharSet := range n n

/-- Whether a code point belongs to a set. -/
def contains (s : CharSet) (n : Nat) : Bool :=
  s.ranges.any fun r => r.1 ≤ n && n ≤ r.2

/-- Joins ranges that meet or touch; the ranges come in increasing order of their first points. -/
def joinSorted : List (Nat × Nat) → List (Nat × Nat)
  | [] => []
  | r :: rest => go r rest
where
  go : Nat × Nat → List (Nat × Nat) → List (Nat × Nat)
    | cur, [] => [cur]
    | cur, r :: rest =>
      if r.1 ≤ cur.2 + 1 then go (cur.1, max cur.2 r.2) rest else cur :: go r rest

/-- The set of all points of some ranges in any order. -/
def ofRanges (rs : List (Nat × Nat)) : CharSet :=
  ⟨joinSorted ((rs.filter fun r => r.1 ≤ r.2).mergeSort fun a b => a.1 ≤ b.1)⟩

/-- The points of either set. -/
def union (s t : CharSet) : CharSet := ofRanges (s.ranges ++ t.ranges)

/-- The points of any of some sets. -/
def unions (sets : List CharSet) : CharSet := ofRanges (sets.flatMap ranges)

/-- The points outside a set. -/
def complement (s : CharSet) : CharSet := ⟨gaps 0 s.ranges⟩
where
  gaps : Nat → List (Nat × Nat) → List (Nat × Nat)
    | n, [] => if n ≤ last then [(n, last)] else []
    | n, r :: rest =>
      if n < r.1 then (n, r.1 - 1) :: gaps (r.2 + 1) rest else gaps (r.2 + 1) rest

/-- The points of both sets. -/
def inter (s t : CharSet) : CharSet := (s.complement.union t.complement).complement

/-- The points of the first set that are not in the second. -/
def diff (s t : CharSet) : CharSet := s.inter t.complement

/-- The points in exactly one of two sets. -/
def symmDiff (s t : CharSet) : CharSet := (s.union t).diff (s.inter t)

/-- A hexadecimal numeral; a sign that is no digit counts as zero. -/
def hexNat (cs : List Char) : Nat :=
  cs.foldl (fun n c => n * 16 + (Hex.digitValue? c).getD 0) 0

/-- A range written `41-5A`, or a single point written `AA`. -/
def rangeOfText (cs : List Char) : Nat × Nat :=
  match cs.span (· != '-') with
  | (lo, '-' :: hi) => (hexNat lo, hexNat hi)
  | (lo, _) => (hexNat lo, hexNat lo)

/-- A set written as ranges in increasing order with a blank between them. -/
def ofText (s : String) : CharSet := ⟨(CharList.split ' ' s.toList).map rangeOfText⟩

end CharSet
end CertAudit.Unicode
