/- SHA-1 of FIPS 180-4. -/
import CertAudit.Digest.Block
namespace CertAudit.Sha1

/-- Turns a word to the left. -/
def rotate (x : UInt32) (n : UInt32) : UInt32 := (x <<< n) ||| (x >>> (32 - n))

/-- The word that extends a schedule, whose last word comes first. -/
def nextWord (w : List UInt32) : UInt32 :=
  rotate (w.getD 2 0 ^^^ w.getD 7 0 ^^^ w.getD 13 0 ^^^ w.getD 15 0) 1

/-- The eighty words of all rounds, of which a block gives the first sixteen. -/
def schedule (block : List UInt32) : List UInt32 :=
  ((List.range 64).foldl (fun w _ => nextWord w :: w) block.reverse).reverse

/-- The five words of a state. -/
structure State where
  a : UInt32
  b : UInt32
  c : UInt32
  d : UInt32
  e : UInt32

/-- The mixing function and the constant of a round. -/
def mixing (i : Nat) (s : State) : UInt32 × UInt32 :=
  if i < 20 then ((s.b &&& s.c) ||| (~~~s.b &&& s.d), 0x5a827999)
  else if i < 40 then (s.b ^^^ s.c ^^^ s.d, 0x6ed9eba1)
  else if i < 60 then ((s.b &&& s.c) ||| (s.b &&& s.d) ||| (s.c &&& s.d), 0x8f1bbcdc)
  else (s.b ^^^ s.c ^^^ s.d, 0xca62c1d6)

/-- One round with its word of the schedule. -/
def round (s : State) (k : UInt32 × Nat) : State :=
  let (f, constant) := mixing k.2 s
  ⟨rotate s.a 5 + f + s.e + constant + k.1, s.a, rotate s.b 30, s.c, s.d⟩

/-- The state after one block. -/
def compress (s : State) (block : List UInt32) : State :=
  let r := (schedule block).zipIdx.foldl round s
  ⟨s.a + r.a, s.b + r.b, s.c + r.c, s.d + r.d, s.e + r.e⟩

/-- The SHA-1 digest, of 20 bytes. -/
def digest (message : Bytes) : Bytes :=
  let start : State := ⟨0x67452301, 0xefcdab89, 0x98badcfe, 0x10325476, 0xc3d2e1f0⟩
  let s := (Digest.blocks 64 8 message).foldl (fun s block =>
    compress s ((Digest.words 4 block).map UInt32.ofNat)) start
  [s.a, s.b, s.c, s.d, s.e].flatMap fun w => Bytes.ofNat 4 w.toNat

end CertAudit.Sha1
