/- Signatures with keys on the curves P-256 and P-384. -/
import CertAudit.Signature.Rsa
namespace CertAudit.Ecdsa

/-- A curve `y ^ 2 = x ^ 3 - 3 * x + b` over a prime field, with a base point of prime order. -/
structure Curve where
  prime : Nat
  b : Nat
  baseX : Nat
  baseY : Nat
  order : Nat
  width : Nat

/-- The curve P-256. -/
def p256 : Curve where
  prime := 0xffffffff00000001000000000000000000000000ffffffffffffffffffffffff
  b := 0x5ac635d8aa3a93e7b3ebbd55769886bc651d06b0cc53b0f63bce3c3e27d2604b
  baseX := 0x6b17d1f2e12c4247f8bce6e563a440f277037d812deb33a0f4a13945d898c296
  baseY := 0x4fe342e2fe1a7f9b8ee7eb4a7c0f9e162bce33576b315ececbb6406837bf51f5
  order := 0xffffffff00000000ffffffffffffffffbce6faada7179e84f3b9cac2fc632551
  width := 32

/-- The curve P-384. -/
def p384 : Curve where
  prime := 0xfffffffffffffffffffffffffffffffffffffffffffffffffffffffffffffffeffffffff0000000000000000ffffffff
  b := 0xb3312fa7e23ee7e4988e056be3f82d19181d9c6efe8141120314088f5013875ac656398d8a2ed19d2a85c8edd3ec2aef
  baseX := 0xaa87ca22be8b05378eb1c71ef320ad746e1d3b628ba79b9859f741e082542a385502f25dbf55296c3a545e3872760ab7
  baseY := 0x3617de4a96262c6f5d9e98bf9292dc29f8f41dbd289a147ce9da3113b5f0b8c00a60b1ce1d7e819d7a431d7c90ea0e5f
  order := 0xffffffffffffffffffffffffffffffffffffffffffffffffc7634d81f4372ddf581a0db248b0a77aecec196accc52973
  width := 48

/-- A point in Jacobian coordinates: `x / z ^ 2` and `y / z ^ 3`, at infinity where `z` is zero. -/
structure Point where
  x : Nat
  y : Nat
  z : Nat

/-- The point at infinity. -/
def Point.infinity : Point := ⟨1, 1, 0⟩

namespace Curve

/-- Twice a point. -/
def double (c : Curve) (p : Point) : Point :=
  let m := c.prime
  let delta := p.z * p.z % m
  let gamma := p.y * p.y % m
  let beta := p.x * gamma % m
  let alpha := 3 * (Modular.sub p.x delta m * (p.x + delta)) % m
  let x := Modular.sub (alpha * alpha % m) (8 * beta % m) m
  let z := 2 * p.y * p.z % m
  let y := Modular.sub (alpha * Modular.sub (4 * beta % m) x m % m) (8 * gamma * gamma % m) m
  ⟨x, y, z⟩

/-- The sum of two points. -/
def add (c : Curve) (p q : Point) : Point :=
  let m := c.prime
  if p.z = 0 then q
  else if q.z = 0 then p
  else
    let zz1 := p.z * p.z % m
    let zz2 := q.z * q.z % m
    let u1 := p.x * zz2 % m
    let u2 := q.x * zz1 % m
    let s1 := p.y * zz2 % m * q.z % m
    let s2 := q.y * zz1 % m * p.z % m
    let h := Modular.sub u2 u1 m
    let r := Modular.sub s2 s1 m
    if h = 0 then (if r = 0 then c.double p else .infinity)
    else
      let hh := h * h % m
      let hhh := h * hh % m
      let v := u1 * hh % m
      let x := Modular.sub (Modular.sub (r * r % m) hhh m) (2 * v % m) m
      let y := Modular.sub (r * Modular.sub v x m % m) (s1 * hhh % m) m
      ⟨x, y, p.z * q.z % m * h % m⟩

/-- A multiple of a point. -/
def scale (c : Curve) (k : Nat) (p : Point) : Point :=
  (Modular.bitsDown k).foldl (fun acc bit =>
    let twice := c.double acc
    if bit then c.add twice p else twice) .infinity

/-- The first coordinate of a point that is not at infinity. -/
def affineX? (c : Curve) (p : Point) : Option Nat :=
  if p.z = 0 then none
  else some (p.x * Modular.inverse (p.z * p.z % c.prime) c.prime % c.prime)

/-- Whether coordinates name a point of the curve. -/
def contains (c : Curve) (x y : Nat) : Bool :=
  x < c.prime && y < c.prime &&
    y * y % c.prime == (x * x * x + (c.prime - 3) * x + c.b) % c.prime

/-- Reads a point written with both coordinates. -/
def readPoint (c : Curve) : Bytes → Option Point
  | 4 :: rest =>
    let x := Bytes.toNat (rest.take c.width)
    let y := Bytes.toNat (rest.drop c.width)
    if rest.length = 2 * c.width ∧ c.contains x y then some ⟨x, y, 1⟩ else none
  | _ => none

/-- The leftmost bytes of a digest, as many as a number below the order has. -/
def digestNumber (c : Curve) (digest : Bytes) : Nat := Bytes.toNat (digest.take c.width) % c.order

/-- Whether a signature fits a message. -/
def verify (c : Curve) (algorithm : DigestAlgorithm) (key message signature : Bytes) : Bool :=
  match c.readPoint key, Rsa.readPair signature with
  | some q, some (r, s) =>
    if r < c.order ∧ s < c.order then
      let e := c.digestNumber (Digest.compute algorithm message)
      let w := Modular.inverse s c.order
      let base : Point := ⟨c.baseX, c.baseY, 1⟩
      let sum := c.add (c.scale (e * w % c.order) base) (c.scale (r * w % c.order) q)
      (c.affineX? sum).map (· % c.order) == some r
    else false
  | _, _ => false

end Curve
end CertAudit.Ecdsa
