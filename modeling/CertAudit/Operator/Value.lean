/- Operators that compare the value of a node with operands. -/
import CertAudit.Operator.Basic
import CertAudit.Context
import CertAudit.Pattern
import CertAudit.Time.Reader
namespace CertAudit

/-- The verdict of an operator, or why there is none. -/
abbrev Judgement := Except OperatorFault Bool

namespace Value

mutual

/-- Whether two values are equal across kinds: integers and doubles as numbers, bytes and texts by
their hexadecimal spelling, lists item by item. -/
def equals : Value → Value → Bool
  | .int a, .uint b => a.toInt == b.toNat
  | .uint a, .int b => a.toNat == b.toInt
  | .float a, .int b => a.equal (Binary64.ofInt b.toInt)
  | .float a, .uint b => a.equal (Binary64.ofNat b.toNat)
  | .int a, .float b => (Binary64.ofInt a.toInt).equal b
  | .uint a, .float b => (Binary64.ofNat a.toNat).equal b
  | .bytes a, .string b => Hex.spells a b
  | .string a, .bytes b => Hex.spells b a
  | .list as, .list bs => itemsEqual as bs
  | a, b => same a b

/-- Whether two lists are equal item by item, across kinds. -/
def itemsEqual : List Value → List Value → Bool
  | [], [] => true
  | a :: as, b :: bs => equals a b && itemsEqual as bs
  | _, _ => false

end

/-- Whether two values are equal, or are the same number, or have the same text. -/
def alike (a b : Value) : Bool :=
  a.equals b ||
    match a.number?, b.number? with
    | some x, some y => x.equal y
    | _, _ => a.display == b.display

mutual

/-- The texts of a value; a list gives those of its items. -/
def flatTexts : Value → List String
  | .list items => itemTexts items
  | .bool b => [display (.bool b)]
  | .int i => [display (.int i)]
  | .uint n => [display (.uint n)]
  | .float x => [display (.float x)]
  | .bytes bs => [display (.bytes bs)]
  | .string s => [s]
  | .time t => [t.display]

/-- The texts of values one after another. -/
def itemTexts : List Value → List String
  | [] => []
  | v :: rest => flatTexts v ++ itemTexts rest

end

end Value

namespace Operator

/-- The operand of an operator that takes exactly one. -/
def single (o : Operator) : List Value → Except OperatorFault Value
  | [v] => .ok v
  | operands => .error (.arity o "exactly 1" operands.length)

/-- Whether a node has a value equal to the one operand. -/
def judgeEqual (negated : Bool) (target : Option Node) (operands : List Value) : Bool :=
  match target, operands with
  | some n, [v] =>
    let equal := match n.value with
      | some value => value.equals v
      | none => false
    equal != negated
  | _, _ => false

/-- Whether a node has a value equal to that of the node at a path. -/
def judgeMatching (o : Operator) (target : Option Node) (root : Node) (operands : List Value) :
    Judgement :=
  match target with
  | none => .ok false
  | some n => do
    match ← o.single operands with
    | .string path =>
      match n.value, (root.resolve? path).bind Node.value with
      | some a, some b => .ok (a.equals b)
      | _, _ => .ok false
    | other => .error (.operand o ("expected a path string, got " ++ other.kind))

/-- The number of a value. -/
def numeric (o : Operator) : Option Value → Except OperatorFault Binary64
  | none => .error (.notNumeric o "<no value>")
  | some v =>
    match v.number? with
    | some x => .ok x
    | none => .error (.notNumeric o v.display)

/-- Compares the number of a node with the one operand. -/
def judgeNumber (o : Operator) (test : Binary64 → Binary64 → Bool) (target : Option Node)
    (operands : List Value) : Judgement :=
  match target with
  | none => .ok false
  | some n => do
    let v ← o.single operands
    let a ← o.numeric n.value
    let b ← o.numeric (some v)
    .ok (test a b)

/-- Whether a node has a value like one of the operands. -/
def judgeMember (o : Operator) (negated : Bool) (target : Option Node) (operands : List Value) :
    Judgement :=
  match target with
  | none => .ok false
  | some n =>
    if operands.isEmpty then .error (.arity o "at least 1" 0)
    else
      let found := match n.value with
        | some v => operands.any v.alike
        | none => false
      .ok (found != negated)

/-- Whether one text occurs in another. -/
def occursIn (part : List Char) : List Char → Bool
  | [] => part.isEmpty
  | c :: rest => part.isPrefixOf (c :: rest) || occursIn part rest

/-- Whether a list, a text, or the children of a node hold the one operand. -/
def judgeContains (target : Option Node) (operands : List Value) : Judgement :=
  match target with
  | none => .ok false
  | some n => do
    let v ← contains.single operands
    let inChildren := (n.children.filterMap fun c => c.2.value).any fun w => w.alike v
    match n.value with
    | some (.list items) => .ok (items.any fun w => w.alike v)
    | some (.string s) => .ok (occursIn v.display.toList s.toList)
    | some other =>
      if !n.children.isEmpty then .ok inChildren else .error (.shape contains other.kind)
    | none =>
      if !n.children.isEmpty then .ok inChildren
      else .error (.shape contains "node without value or children")

/-- The length of a node: of its text, bytes or list, or the number of its children. -/
def lengthOf? (n : Node) : Option Nat :=
  match n.value with
  | some (.string s) => some s.length
  | some (.bytes bs) => some bs.length
  | some (.list items) => some items.length
  | some _ => none
  | none => some n.children.length

/-- The bound that an operand sets. -/
def bound? : Value → Option Nat
  | .int i => if 0 ≤ i.toInt then some i.toInt.toNat else none
  | .uint n => some n.toNat
  | _ => none

/-- Compares the length of a node with the one operand. -/
def judgeLength (o : Operator) (test : Nat → Nat → Bool) (target : Option Node)
    (operands : List Value) : Judgement :=
  match target with
  | none => .ok false
  | some n => do
    let v ← o.single operands
    match bound? v with
    | none => .error (.operand o ("expected a non-negative integer, got " ++ v.display))
    | some bound =>
      match lengthOf? n with
      | none => .ok false
      | some length => .ok (test length bound)

/-- Whether there is no node, or one without a value and children, or with an empty value. -/
def holdsNothing : Option Node → Bool
  | none => true
  | some n =>
    match n.value with
    | none => n.children.isEmpty
    | some (.string s) => s.isEmpty
    | some (.bytes bs) => bs.isEmpty
    | some (.list items) => items.isEmpty
    | some _ => false

/-- The text of the pattern that is the one operand. -/
def patternText (o : Operator) (operands : List Value) : Except OperatorFault String := do
  match ← o.single operands with
  | .string source => .ok source
  | other => .error (.operand o ("pattern must be a string, got " ++ other.kind))

/-- Whether the text of a node matches the pattern that a text spells, if it spells one. -/
def judgeText (o : Operator) (negated : Bool) (n : Node) (source : String) :
    Option Pattern → Judgement
  | none => .error (.pattern o source)
  | some p =>
    match n.value with
    | some (.string text) => .ok (p.isMatch text != negated)
    | _ => .ok false

/-- Whether the text of a node matches the pattern that is the one operand. The pattern is taken
from a cache, which is returned with the pattern in it. -/
def judgePatternIn (o : Operator) (cache : PatternCache) (negated : Bool) (target : Option Node)
    (operands : List Value) : Judgement × PatternCache :=
  match target with
  | none => (.ok false, cache)
  | some n =>
    match o.patternText operands with
    | .error fault => (.error fault, cache)
    | .ok source =>
      let (pattern, cache) := cache.get? source
      (o.judgeText negated n source pattern, cache)

/-- The verdict where no pattern has been compiled before. -/
def judgePattern (o : Operator) (negated : Bool) (target : Option Node) (operands : List Value) :
    Judgement :=
  (o.judgePatternIn {} negated target operands).1

/-- Whether two texts are equal but for the case of ASCII letters. -/
def equalsIgnoringCase (a b : String) : Bool :=
  a.toList.map Char.toLower == b.toList.map Char.toLower

/-- The instant that the operands name, now if there are none. -/
def reference (o : Operator) (now : Timestamp) : List Value → Except OperatorFault Timestamp
  | [] => .ok now
  | [v] =>
    let found := match v with
      | .string s => if equalsIgnoringCase s "now" then some now else Timestamp.ofText? s
      | .time t => some t
      | .int i => Timestamp.ofUnix? i.toInt
      | _ => none
    match found with
    | some t => .ok t
    | none => .error (.timestamp o v.display)
  | operands => .error (.arity o "0 or 1" operands.length)

/-- Compares the time of a node with the instant that the operands name. -/
def judgeTime (o : Operator) (test : Timestamp → Timestamp → Bool) (target : Option Node)
    (now : Timestamp) (operands : List Value) : Judgement :=
  match target with
  | none => .ok false
  | some n => do
    let t ← o.reference now operands
    match n.value with
    | some (.time s) => .ok (test s t)
    | some other => .error (.shape o (other.kind ++ " (expected timestamp)"))
    | none => .ok false

/-- Whether a numeral stands for a number above zero. -/
def isPositiveNumeral (s : String) : Bool :=
  let digits := match s.toList with
    | '+' :: cs => cs
    | cs => cs
  if !digits.isEmpty && digits.all Literal.isDigit then digits.any (· != '0')
  else match Literal.binary64? s with
    | some x => x.isPositive
    | none => false

/-- Whether a value stands for a number above zero. -/
def isPositiveValue : Value → Bool
  | .int i => 0 < i.toInt
  | .uint n => 0 < n.toNat
  | .float x => x.isPositive
  | .bytes bs => bs.any (· != 0)
  | .string s => isPositiveNumeral (Unicode.trim s)
  | _ => false

/-- Whether a node has a value above zero. -/
def judgePositive (target : Option Node) : Bool :=
  match target.bind Node.value with
  | some v => isPositiveValue v
  | none => false

/-- Whether a node of an extension is marked critical. -/
def judgeCritical (negated : Bool) : Option Node → Bool
  | none => false
  | some n => (n.critical?.getD false) != negated

end Operator
end CertAudit
