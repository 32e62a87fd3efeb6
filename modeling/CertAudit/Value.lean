/- Scalar values and lists, as they stand in trees and in operands of rules. -/
import CertAudit.Json.Reader
import CertAudit.Time.Timestamp
namespace CertAudit

/-- A value. Integers below `2 ^ 63` usually are signed ones. -/
inductive Value
  | bool (b : Bool)
  | int (i : Int64)
  | uint (n : UInt64)
  | float (x : Binary64)
  | bytes (bs : Bytes)
  | string (s : String)
  | time (t : Timestamp)
  | list (items : List Value)
deriving Repr, Inhabited

namespace Value

/-- A natural number as a signed integer where it is one, else as an unsigned one. -/
def ofNat (n : Nat) : Value :=
  if n < Nat.pow 2 63 then .int (Int64.ofNat n) else .uint (UInt64.ofNat n)

/-- The number a value stands for, as a double. -/
def number? : Value → Option Binary64
  | .int i => some (Binary64.ofInt i.toInt)
  | .uint n => some (Binary64.ofNat n.toNat)
  | .float x => some x
  | _ => none

/-- The text of a string. -/
def text? : Value → Option String
  | .string s => some s
  | _ => none

/-- The instant of a time. -/
def time? : Value → Option Timestamp
  | .time t => some t
  | _ => none

/-- The truth value of a boolean. -/
def bool? : Value → Option Bool
  | .bool b => some b
  | _ => none

/-- What kind of value this is. -/
def kind : Value → String
  | .bool _ => "bool"
  | .int _ => "integer"
  | .uint _ => "integer"
  | .float _ => "float"
  | .bytes _ => "bytes"
  | .string _ => "string"
  | .time _ => "timestamp"
  | .list _ => "list"

mutual

/-- The text of a value. -/
def display : Value → String
  | .bool b => if b then "true" else "false"
  | .int i => toString i.toInt
  | .uint n => Nat.repr n.toNat
  | .float x => x.display
  | .bytes bs => Hex.colonUpper bs
  | .string s => s
  | .time t => t.display
  | .list items => "[" ++ displayItems items ++ "]"

/-- The texts of values with a comma and a blank between them. -/
def displayItems : List Value → String
  | [] => ""
  | [v] => display v
  | v :: rest => display v ++ ", " ++ displayItems rest

end

mutual

/-- Whether two values are of one kind and equal: doubles as numbers, times as instants. -/
def same : Value → Value → Bool
  | .bool a, .bool b => a == b
  | .int a, .int b => a == b
  | .uint a, .uint b => a == b
  | .float a, .float b => a.equal b
  | .bytes a, .bytes b => a == b
  | .string a, .string b => a == b
  | .time a, .time b => a.sameInstant b
  | .list a, .list b => sameItems a b
  | _, _ => false

/-- Whether two lists are equal item by item. -/
def sameItems : List Value → List Value → Bool
  | [], [] => true
  | a :: as, b :: bs => same a b && sameItems as bs
  | _, _ => false

end

mutual

/-- A value as a document. Bytes and times are written as texts. -/
def toJson : Value → Json
  | .bool b => .bool b
  | .int i => .integer i.toInt
  | .uint n => .integer n.toNat
  | .float x => .real x
  | .bytes bs => .string (Hex.colonUpper bs)
  | .string s => .string s
  | .time t => .string t.display
  | .list items => .array (itemsToJson items)

/-- Values as documents. -/
def itemsToJson : List Value → List Json
  | [] => []
  | v :: rest => toJson v :: itemsToJson rest

end

/-- The value of an integer of at most sixty-four bits. -/
def ofInt? (i : Int) : Option Value :=
  if Int64.minValue.toInt ≤ i ∧ i ≤ Int64.maxValue.toInt then some (.int (Int64.ofInt i))
  else if 0 ≤ i ∧ i < UInt64.size then some (.uint (UInt64.ofNat i.toNat))
  else none

mutual

/-- The value of a document without nulls and objects. -/
def ofJson? : Json → Option Value
  | .bool b => some (.bool b)
  | .integer i => ofInt? i
  | .real x => some (.float x)
  | .string s => some (.string s)
  | .array items => (ofJsonItems? items).map .list
  | .null => none
  | .object _ => none

/-- The values of documents, if all of them have one. -/
def ofJsonItems? : List Json → Option (List Value)
  | [] => some []
  | j :: rest =>
    match ofJson? j, ofJsonItems? rest with
    | some v, some vs => some (v :: vs)
    | _, _ => none

end

/-- The value a JSON text spells. -/
def parse? (text : String) : Option Value := (Json.parse? text).bind ofJson?

end Value
end CertAudit
