/- Regular expressions as they are written. -/
namespace CertAudit.Pattern

/-- A flag that changes what an expression means. -/
inductive Flag
  | caseless
  | multiLine
  | dotAll
  | swapGreed
  | unicode
  | crlf
  | ignoreBlanks
deriving Repr, DecidableEq

/-- A character; `isByte` tells that it is given by two hexadecimal digits. -/
structure Literal where
  char : Char
  isByte : Bool := false
deriving Repr, DecidableEq

/-- A class with a letter of its own. -/
inductive LetterClass
  | digit
  | space
  | word
deriving Repr, DecidableEq

/-- A condition on a place between characters. -/
inductive Anchor
  | lineStart
  | lineEnd
  | textStart
  | textEnd
  | wordBoundary
  | notWordBoundary
  | wordStart
  | wordEnd
  | wordStartHalf
  | wordEndHalf
deriving Repr, DecidableEq

/-- How two sets of characters are combined. -/
inductive SetOperation
  | intersection
  | difference
  | symmetricDifference
deriving Repr, DecidableEq

/-- A set of characters. -/
inductive ClassExpr
  | range (lo hi : Literal)
  | letter (negated : Bool) (kind : LetterClass)
  | property (negated : Bool) (key : Option String) (value : String)
  | ascii (negated : Bool) (name : String)
  | bracketed (negated : Bool) (body : ClassExpr)
  | union (items : List ClassExpr)
  | combined (operation : SetOperation) (left right : ClassExpr)
deriving Repr, Inhabited

/-- An expression. A repetition has a least and perhaps a greatest count. -/
inductive Expr
  | literal (l : Literal)
  | dot
  | anchor (a : Anchor)
  | set (c : ClassExpr)
  | flags (changes : List (Flag × Bool))
  | group (changes : List (Flag × Bool)) (body : Expr)
  | repeated (least : Nat) (greatest : Option Nat) (body : Expr)
  | concat (parts : List Expr)
  | choice (options : List Expr)
deriving Repr, Inhabited

mutual

/-- How deep the parts of a set are nested. Single characters, ranges and named classes have no
depth. -/
def ClassExpr.depth : ClassExpr → Nat
  | .range _ _ => 0
  | .letter _ _ => 0
  | .property _ _ _ => 0
  | .ascii _ _ => 0
  | .bracketed _ body => body.depth + 1
  | .union [e] => e.depth
  | .union items => if items.isEmpty then 0 else ClassExpr.greatestDepth items + 1
  | .combined _ left right => max left.depth right.depth + 1

/-- The greatest depth among the items of a set. -/
def ClassExpr.greatestDepth : List ClassExpr → Nat
  | [] => 0
  | e :: rest => max e.depth (ClassExpr.greatestDepth rest)

end

mutual

/-- How deep the parts of an expression are nested. -/
def Expr.depth : Expr → Nat
  | .literal _ => 0
  | .dot => 0
  | .anchor _ => 0
  | .set c => c.depth
  | .flags _ => 0
  | .group _ body => body.depth + 1
  | .repeated _ _ body => body.depth + 1
  | .concat [e] => e.depth
  | .concat parts => if parts.isEmpty then 0 else Expr.greatestDepth parts + 1
  | .choice options => Expr.greatestDepth options + 1

/-- The greatest depth among some expressions. -/
def Expr.greatestDepth : List Expr → Nat
  | [] => 0
  | e :: rest => max e.depth (Expr.greatestDepth rest)

end

/-- The greatest depth of an expression that is accepted. -/
def Expr.depthLimit : Nat := 250

end CertAudit.Pattern
