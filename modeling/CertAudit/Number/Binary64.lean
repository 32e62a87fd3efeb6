/- Numbers of the IEEE 754 double format as integers times powers of two. What is read or converted
becomes the double nearest to its exact value, the even one of two that are equally near. -/
namespace CertAudit

/-- A double: `significand * 2 ^ exponent` with a sign, or one of the special values. -/
inductive Binary64
  | nan
  | infinity (negative : Bool)
  | finite (negative : Bool) (significand : Nat) (exponent : Int)
deriving Repr, DecidableEq, Inhabited

namespace Binary64

/-- Zero, with a sign. -/
def zero (negative : Bool) : Binary64 := .finite negative 0 (-1074)

/-- The integer nearest to a quotient, the even one of two. -/
def roundQuotient (num den : Nat) : Nat :=
  let q := num / den
  let r := num % den
  if 2 * r < den ∨ (2 * r = den ∧ q % 2 = 0) then q else q + 1

/-- A quotient divided by a power of two, as a quotient. -/
def scaleDown (num den : Nat) (e : Int) : Nat × Nat :=
  if e ≥ 0 then (num, den * Nat.pow 2 e.toNat) else (num * Nat.pow 2 (-e).toNat, den)

/-- The exponent of the last bit a double of this size has. -/
def lastBit (num den : Nat) : Int :=
  let guess : Int := (num.log2 : Int) - (den.log2 : Int) - 53
  let (n, d) := scaleDown num den guess
  let exact := if n / d ≥ Nat.pow 2 53 then guess + 1 else guess
  max exact (-1074)

/-- The double nearest to a quotient of naturals. -/
def ofQuotient (negative : Bool) (num den : Nat) : Binary64 :=
  if num = 0 then zero negative
  else
    let e := lastBit num den
    let (n, d) := scaleDown num den e
    let m := roundQuotient n d
    let (m, e) := if m = Nat.pow 2 53 then (Nat.pow 2 52, e + 1) else (m, e)
    if e > 971 then .infinity negative else .finite negative m e

/-- The double nearest to a natural number. -/
def ofNat (n : Nat) : Binary64 := ofQuotient false n 1

/-- The double nearest to an integer. -/
def ofInt (i : Int) : Binary64 := ofQuotient (i < 0) i.natAbs 1

/-- The double nearest to `digits * 10 ^ exponent`. -/
def ofDecimal (negative : Bool) (digits : Nat) (exponent : Int) : Binary64 :=
  let size : Int := (Nat.toDigits 10 digits).length + exponent
  if digits = 0 ∨ size < -330 then zero negative
  else if size > 310 then .infinity negative
  else if exponent ≥ 0 then ofQuotient negative (digits * Nat.pow 10 exponent.toNat) 1
  else ofQuotient negative digits (Nat.pow 10 (-exponent).toNat)

/-- Whether a double is neither infinite nor an undefined result. -/
def isFinite : Binary64 → Bool
  | .finite .. => true
  | _ => false

/-- Orders two signed multiples of powers of two. -/
def compareScaled (s : Bool) (m : Nat) (e : Int) (t : Bool) (n : Nat) (f : Int) : Ordering :=
  let low := min e f
  let a : Int := m * Nat.pow 2 (e - low).toNat
  let b : Int := n * Nat.pow 2 (f - low).toNat
  compare (if s then -a else a) (if t then -b else b)

/-- The order of two doubles; an undefined result has no place in it. -/
def compare? : Binary64 → Binary64 → Option Ordering
  | .nan, _ => none
  | _, .nan => none
  | .infinity s, .infinity t => some (if s = t then .eq else if s then .lt else .gt)
  | .infinity s, .finite .. => some (if s then .lt else .gt)
  | .finite .., .infinity t => some (if t then .gt else .lt)
  | .finite s m e, .finite t n f => some (compareScaled s m e t n f)

/-- Numeric equality: both zeros are equal, an undefined result equals nothing. -/
def equal (x y : Binary64) : Bool := compare? x y == some .eq

/-- Whether the first double is below the second. -/
def below (x y : Binary64) : Bool := compare? x y == some .lt

/-- Whether the first double is below the second or equal to it. -/
def atMost (x y : Binary64) : Bool := below x y || equal x y

/-- Whether a double is above zero. -/
def isPositive (x : Binary64) : Bool := below (zero false) x

end Binary64
end CertAudit
