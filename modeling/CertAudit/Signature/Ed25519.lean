/- Signatures with keys on the Edwards curve over the field of `2 ^ 255 - 19`. -/
import CertAudit.Digest
import CertAudit.Number.Modular
namespace CertAudit.Ed25519

/-- The prime of the field. -/
def prime : Nat := Nat.pow 2 255 - 19

/-- The order of the base point. -/
def order : Nat := Nat.pow 2 252 + 27742317777372353535851937790883648493

/-- The coefficient of the curve `y ^ 2 - x ^ 2 = 1 + d * x ^ 2 * y ^ 2`. -/
def d : Nat := 37095705934669439343138083508754565189542113879843219016388785533085940283555

/-- A point in extended coordinates: `x / z`, `y / z`, and `t * z = x * y`. -/
structure Point where
  x : Nat
  y : Nat
  z : Nat
  t : Nat

/-- The neutral point. -/
def Point.zero : Point := ⟨0, 1, 1, 0⟩

/-- The base point. -/
def base : Point :=
  let x := 15112221349535400772501151409588531511454012693041857206046113283949847762202
  let y := 46316835694926478169428394003475163141307993866256225615783033603165251855960
  ⟨x, y, 1, x * y % prime⟩

/-- The sum of two points. -/
def Point.add (p q : Point) : Point :=
  let a := Modular.sub p.y p.x prime * Modular.sub q.y q.x prime % prime
  let b := (p.y + p.x) * (q.y + q.x) % prime
  let c := 2 * d * p.t % prime * q.t % prime
  let e := 2 * p.z * q.z % prime
  let f := Modular.sub b a prime
  let g := Modular.sub e c prime
  let h := (e + c) % prime
  let k := (b + a) % prime
  ⟨f * g % prime, h * k % prime, g * h % prime, f * k % prime⟩

/-- A multiple of a point. -/
def Point.scale (k : Nat) (p : Point) : Point :=
  (Modular.bitsDown k).foldl (fun acc bit =>
    let twice := acc.add acc
    if bit then twice.add p else twice) .zero

/-- The opposite point. -/
def Point.neg (p : Point) : Point :=
  { p with x := Modular.sub 0 p.x prime, t := Modular.sub 0 p.t prime }

/-- The number that bytes spell, the least significant first. -/
def littleEndian (bs : Bytes) : Nat := Bytes.toNat bs.reverse

/-- The encoding of a point: its second coordinate, with the parity of the first on top. -/
def Point.encode (p : Point) : Bytes :=
  let w := Modular.inverse p.z prime
  let x := p.x * w % prime
  let y := p.y * w % prime
  (Bytes.ofNat 32 (y + x % 2 * Nat.pow 2 255)).reverse

/-- A square root of a quotient, if it has one. -/
def rootOfQuotient? (u v : Nat) : Option Nat :=
  let v3 := v * v % prime * v % prime
  let v7 := v3 * v3 % prime * v % prime
  let r := u * v3 % prime * Modular.pow (u * v7 % prime) ((prime - 5) / 8) prime % prime
  let check := v * r % prime * r % prime
  if check = u then some r
  else if check = Modular.sub 0 u prime then
    some (r * Modular.pow 2 ((prime - 1) / 4) prime % prime)
  else none

/-- The point that bytes encode. -/
def Point.decode? (bs : Bytes) : Option Point :=
  if bs.length ≠ 32 then none
  else
    let n := littleEndian bs
    let y := n % Nat.pow 2 255 % prime
    let odd := n / Nat.pow 2 255
    let yy := y * y % prime
    let u := Modular.sub yy 1 prime
    let v := (d * yy + 1) % prime
    (rootOfQuotient? u v).map fun r =>
      let x := if r % 2 = odd then r else Modular.sub 0 r prime
      ⟨x, y, 1, x * y % prime⟩

/-- Whether a signature fits a message. -/
def verify (key message signature : Bytes) : Bool :=
  let s := littleEndian (signature.drop 32)
  let r := signature.take 32
  if signature.length ≠ 64 ∨ s ≥ order then false
  else
    match Point.decode? key with
    | none => false
    | some a =>
      let h := littleEndian (Digest.compute .sha512 (r ++ key ++ message)) % order
      ((Point.scale s base).add (Point.scale h a.neg)).encode == r

end CertAudit.Ed25519
