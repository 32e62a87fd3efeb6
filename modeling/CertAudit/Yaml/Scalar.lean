/- What plain YAML texts stand for, by the core schema. -/
import CertAudit.Number.Literal
namespace CertAudit.Yaml

/-- What a plain text stands for. An integer is `large` if it needs more than sixty-four bits, but
not more than twice as many. -/
inductive Scalar
  | null
  | bool (b : Bool)
  | integer (i : Int)
  | large
  | real (x : Binary64)
  | text
deriving Repr, DecidableEq

namespace Scalar

/-- Whether digits stand behind a needless zero, which makes a text of them. -/
def isPaddedNumeral (cs : List Char) : Bool :=
  let cs := match cs with
    | '-' :: rest => rest
    | '+' :: rest => rest
    | cs => cs
  match cs with
  | '0' :: c :: rest => (c :: rest).all Literal.isDigit
  | _ => false

/-- A number in base sixteen, eight or two behind its mark. -/
def marked? : List Char → Option Nat
  | '0' :: 'x' :: ds => Literal.natIn? 16 ds
  | '0' :: 'o' :: ds => Literal.natIn? 8 ds
  | '0' :: 'b' :: ds => Literal.natIn? 2 ds
  | _ => none

/-- An integer: digits with a mark of their base or without. -/
def integer? (cs : List Char) : Option Int :=
  let plain := fun (ds : List Char) =>
    if isPaddedNumeral ds then none else Literal.natIn? 10 ds
  match cs with
  | '-' :: ds => ((marked? ds).or (plain ds)).map fun n => -(n : Int)
  | '+' :: ds => ((marked? ds).or (plain ds)).map fun n => (n : Int)
  | ds => ((marked? ds).or (plain ds)).map fun n => (n : Int)

/-- The scalar of an integer, unless it needs too many bits. -/
def ofInt? (i : Int) : Option Scalar :=
  if Int64.minValue.toInt ≤ i ∧ i < UInt64.size then some (.integer i)
  else if -Nat.pow 2 127 ≤ i ∧ i < Nat.pow 2 128 then some .large
  else none

/-- A finite double in decimal. -/
def finite? (cs : List Char) : Option Binary64 :=
  (Literal.binary64? (String.ofList cs)).filter Binary64.isFinite

/-- A double; the special ones begin with a point. -/
def real? (s : String) : Option Binary64 :=
  match s with
  | ".inf" | ".Inf" | ".INF" | "+.inf" | "+.Inf" | "+.INF" => some (.infinity false)
  | "-.inf" | "-.Inf" | "-.INF" => some (.infinity true)
  | ".nan" | ".NaN" | ".NAN" => some .nan
  | _ =>
    match s.toList with
    | '+' :: '+' :: _ => none
    | '+' :: '-' :: _ => none
    | cs => finite? cs

/-- What a plain text stands for. -/
def ofText (s : String) : Scalar :=
  match s with
  | "" | "~" | "null" | "Null" | "NULL" => .null
  | "true" | "True" | "TRUE" => .bool true
  | "false" | "False" | "FALSE" => .bool false
  | _ =>
    match (integer? s.toList).bind ofInt? with
    | some scalar => scalar
    | none =>
      if isPaddedNumeral s.toList then .text
      else
        match real? s with
        | some x => .real x
        | none => .text

end Scalar
end CertAudit.Yaml
