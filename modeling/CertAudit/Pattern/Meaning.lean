/- What regular expressions mean: how characters and places between them may follow one another,
with all flags and names of classes resolved. -/
import CertAudit.Pattern.Reader
import CertAudit.Unicode.Query
namespace CertAudit.Pattern

open Unicode (CharSet)

/-- A condition on a place, by the characters before and behind it. -/
inductive Look
  | textStart
  | textEnd
  | lineStart
  | lineEnd
  | crlfStart
  | crlfEnd
  | word (letters : CharSet) (holds : Bool → Bool → Bool)

/-- A regular expression over sets of characters. `many` repeats once or more. -/
inductive Regex
  | empty
  | set (s : CharSet)
  | look (l : Look)
  | seq (a b : Regex)
  | alt (a b : Regex)
  | many (a : Regex)
  | opt (a : Regex)
  | times (n : Nat) (a : Regex)
  | upTo (n : Nat) (a : Regex)

namespace Regex

/-- Whether an expression may take up characters. -/
def consumes : Regex → Bool
  | .empty => false
  | .set _ => true
  | .look _ => false
  | .seq a b => a.consumes || b.consumes
  | .alt a b => a.consumes || b.consumes
  | .many a => a.consumes
  | .opt a => a.consumes
  | .times n a => n != 0 && a.consumes
  | .upTo n a => n != 0 && a.consumes

/-- Repeats an expression some number of times at least, and at most. -/
def counted (a : Regex) : Nat → Option Nat → Regex
  | 0, none => .opt (.many a)
  | 1, none => .many a
  | n + 2, none => .seq (.times (n + 1) a) (.many a)
  | least, some greatest =>
    if greatest = 0 then .empty
    else if least = 0 then if greatest = 1 then .opt a else .upTo greatest a
    else if least = greatest then if least = 1 then a else .times least a
    else .seq (.times least a) (.upTo (greatest - least) a)

/-- Repeats an expression. One that takes up no character is not needed more than once. -/
def repeated (a : Regex) (least : Nat) (greatest : Option Nat) : Regex :=
  if a.consumes then a.counted least greatest
  else a.counted (min least 1) (some (min 1 (greatest.getD 1)))

end Regex

/-- The flags in force. -/
structure Mode where
  caseless : Bool := false
  multiLine : Bool := false
  dotAll : Bool := false
  unicode : Bool := true
  crlf : Bool := false

namespace Mode

/-- Sets or clears a flag. Flags without a bearing on what matches change nothing. -/
def change (m : Mode) : Flag × Bool → Mode
  | (.caseless, b) => { m with caseless := b }
  | (.multiLine, b) => { m with multiLine := b }
  | (.dotAll, b) => { m with dotAll := b }
  | (.unicode, b) => { m with unicode := b }
  | (.crlf, b) => { m with crlf := b }
  | (.swapGreed, _) => m
  | (.ignoreBlanks, _) => m

/-- Makes several changes. -/
def changes (m : Mode) (cs : List (Flag × Bool)) : Mode := cs.foldl change m

end Mode

/-- Letters of ASCII. -/
def asciiLetters : List (Nat × Nat) := [(65, 90), (97, 122)]

/-- The ranges of a class of ASCII characters. -/
def asciiRanges : String → List (Nat × Nat)
  | "alnum" => (48, 57) :: asciiLetters
  | "alpha" => asciiLetters
  | "ascii" => [(0, 127)]
  | "blank" => [(9, 9), (32, 32)]
  | "cntrl" => [(0, 31), (127, 127)]
  | "digit" => [(48, 57)]
  | "graph" => [(33, 126)]
  | "lower" => [(97, 122)]
  | "print" => [(32, 126)]
  | "punct" => [(33, 47), (58, 64), (91, 96), (123, 126)]
  | "space" => [(9, 13), (32, 32)]
  | "upper" => [(65, 90)]
  | "word" => [(48, 57), (65, 90), (95, 95), (97, 122)]
  | "xdigit" => [(48, 57), (65, 70), (97, 102)]
  | _ => []

/-- The set of a class with a letter of its own. -/
def letterSet (unicode : Bool) : LetterClass → CharSet
  | .digit => if unicode then Unicode.categoryNd else CharSet.ofRanges (asciiRanges "digit")
  | .space => if unicode then Unicode.whiteSpace else CharSet.ofRanges (asciiRanges "space")
  | .word => if unicode then Unicode.wordCharacters else CharSet.ofRanges (asciiRanges "word")

/-- Adds the other case of every letter of ASCII in a set. -/
def foldAscii (s : CharSet) : CharSet :=
  let letters := fun (lo : Nat) => ((List.range 26).map (lo + ·)).filter s.contains
  CharSet.ofRanges (s.ranges ++ (letters 65).map (fun n => (n + 32, n + 32)) ++
    (letters 97).map (fun n => (n - 32, n - 32)))

namespace Mode

/-- A set with every other case of its members, where case does not count. -/
def folded (m : Mode) (s : CharSet) : CharSet :=
  if !m.caseless then s else if m.unicode then s.foldClosure else foldAscii s

/-- The complement of a set, where it is asked for. Without Unicode it would hold bytes that are
no characters, and there is none. -/
def negated? (m : Mode) (negated : Bool) (s : CharSet) : Option CharSet :=
  if !negated then some s else if m.unicode then some s.complement else none

/-- The code point of a literal in a set. -/
def memberPoint? (m : Mode) (l : Literal) : Option Nat :=
  if m.unicode || l.char.toNat < 128 then some l.char.toNat else none

/-- The set of a literal that stands alone. -/
def literalSet? (m : Mode) (l : Literal) : Option CharSet :=
  if !m.unicode && l.isByte && l.char.toNat ≥ 128 then none
  else some (m.folded (CharSet.single l.char.toNat))

/-- The set that a property names. -/
def property? (key : Option String) (value : String) : Option CharSet :=
  match key with
  | some key => Unicode.valued? key value
  | none => Unicode.named? value

mutual

/-- The set of a class. -/
def classSet? (m : Mode) : ClassExpr → Option CharSet
  | .range lo hi => do
    let a ← m.memberPoint? lo
    let b ← m.memberPoint? hi
    some (CharSet.range a b)
  | .letter negated kind => m.negated? negated (letterSet m.unicode kind)
  | .property negated key value =>
    if m.unicode then (property? key value).bind fun s => m.negated? negated (m.folded s)
    else none
  | .ascii negated name => m.negated? negated (m.folded (CharSet.ofRanges (asciiRanges name)))
  | .bracketed negated body => (classSet? m body).bind fun s => m.negated? negated (m.folded s)
  | .union items => (classSets? m items).map fun sets =>
    CharSet.ofRanges (sets.flatMap CharSet.ranges)
  | .combined operation left right =>
    match classSet? m left, classSet? m right with
    | some a, some b =>
      let a := m.folded a
      let b := m.folded b
      some (match operation with
        | .intersection => a.inter b
        | .difference => a.diff b
        | .symmetricDifference => a.symmDiff b)
    | _, _ => none

/-- The sets of classes. -/
def classSets? (m : Mode) : List ClassExpr → Option (List CharSet)
  | [] => some []
  | c :: rest =>
    match classSet? m c, classSets? m rest with
    | some s, some sets => some (s :: sets)
    | _, _ => none

end

/-- What a point stands for. -/
def dotSet? (m : Mode) : Option CharSet :=
  if !m.unicode then none
  else if m.dotAll then some CharSet.full
  else if m.crlf then some (CharSet.ofRanges [(10, 10), (13, 13)]).complement
  else some (CharSet.single 10).complement

/-- The condition of an anchor. -/
def look (m : Mode) : Anchor → Look
  | .lineStart => if !m.multiLine then .textStart else if m.crlf then .crlfStart else .lineStart
  | .lineEnd => if !m.multiLine then .textEnd else if m.crlf then .crlfEnd else .lineEnd
  | .textStart => .textStart
  | .textEnd => .textEnd
  | .wordBoundary => .word (letterSet m.unicode .word) fun before behind => before != behind
  | .notWordBoundary => .word (letterSet m.unicode .word) fun before behind => before == behind
  | .wordStart => .word (letterSet m.unicode .word) fun before behind => !before && behind
  | .wordEnd => .word (letterSet m.unicode .word) fun before behind => before && !behind
  | .wordStartHalf => .word (letterSet m.unicode .word) fun before _ => !before
  | .wordEndHalf => .word (letterSet m.unicode .word) fun _ behind => !behind

end Mode

mutual

/-- The meaning of an expression under flags, and the flags for what follows it. -/
def Expr.meaning? (m : Mode) : Expr → Option (Regex × Mode)
  | .literal l => (m.literalSet? l).map fun s => (.set s, m)
  | .dot => m.dotSet?.map fun s => (.set s, m)
  | .anchor a => some (.look (m.look a), m)
  | .set c => (m.classSet? c).map fun s => (.set s, m)
  | .flags changes => some (.empty, m.changes changes)
  | .group changes body =>
    (Expr.meaning? (m.changes changes) body).map fun (r, _) => (r, m)
  | .repeated least greatest body =>
    (Expr.meaning? m body).map fun (r, m) => (r.repeated least greatest, m)
  | .concat es => Expr.sequence? m es
  | .choice es => Expr.choice? m es

/-- The meaning of expressions one after another. -/
def Expr.sequence? (m : Mode) : List Expr → Option (Regex × Mode)
  | [] => some (.empty, m)
  | e :: rest =>
    match Expr.meaning? m e with
    | none => none
    | some (a, m) => (Expr.sequence? m rest).map fun (b, m) => (.seq a b, m)

/-- The meaning of a choice of expressions. -/
def Expr.choice? (m : Mode) : List Expr → Option (Regex × Mode)
  | [] => some (.set CharSet.empty, m)
  | e :: rest =>
    match Expr.meaning? m e with
    | none => none
    | some (a, m) => (Expr.choice? m rest).map fun (b, m) => (.alt a b, m)

end

end CertAudit.Pattern
