/- Arithmetic modulo a number. -/
namespace CertAudit.Modular

/-- The bits of a number, the least first. The fuel bounds their count. -/
def bits : Nat → Nat → List Bool
  | 0, _ => []
  | fuel + 1, n => if n = 0 then [] else (n % 2 == 1) :: bits fuel (n / 2)

/-- The bits of a number, the greatest first. -/
def bitsDown (n : Nat) : List Bool := (bits (n.log2 + 1) n).reverse

/-- A power modulo `m`, by squaring. -/
def pow (base exponent m : Nat) : Nat :=
  (bitsDown exponent).foldl (fun acc bit =>
    let square := acc * acc % m
    if bit then square * base % m else square) (1 % m)

/-- The inverse modulo a prime. -/
def inverse (a p : Nat) : Nat := pow a (p - 2) p

/-- The difference modulo `m` of two numbers below it. -/
def sub (a b m : Nat) : Nat := (a + (m - b)) % m

end CertAudit.Modular
