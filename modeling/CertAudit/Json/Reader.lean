/- Reading JSON texts, with a limit of nesting. -/
import CertAudit.Json.Basic
import CertAudit.Number.Literal
import CertAudit.Text.Hex
namespace CertAudit.Json

/-- Blanks between the parts of a document. -/
def isBlank (c : Char) : Bool := c == ' ' || c == '\n' || c == '\t' || c == '\r'

/-- Drops blanks at the front. -/
def skipBlanks (cs : List Char) : List Char := cs.dropWhile isBlank

/-- The double nearest to digits times a power of ten, if that is finite. -/
def real? (negative : Bool) (digits : Nat) (exponent : Int) : Option Json :=
  let x := Binary64.ofDecimal negative digits exponent
  if x.isFinite then some (.real x) else none

/-- A number without a fraction and an exponent. Integers of up to sixty-four bits stay integers,
but zero with a sign does not. -/
def integer? (negative : Bool) (n : Nat) : Option Json :=
  if n < UInt64.size ∧ !(negative && (n == 0 || n > Nat.pow 2 63)) then
    some (.integer (if negative then -n else n))
  else real? negative n 0

/-- Whether an exponent comes next. -/
def isExponentMark (c : Char) : Bool := c == 'e' || c == 'E'

/-- The exponent behind its mark, if one comes next, else zero; and what follows. -/
def exponent? : List Char → Option (Int × List Char)
  | [] => some (0, [])
  | c :: cs =>
    if !isExponentMark c then some (0, c :: cs)
    else
      let (negative, cs) := match cs with
        | '-' :: rest => (true, rest)
        | '+' :: rest => (false, rest)
        | rest => (false, rest)
      let (ds, rest) := cs.span Literal.isDigit
      if ds.isEmpty then none
      else
        let n : Int := Literal.digitsNat ds
        some (if negative then -n else n, rest)

/-- Reads a number behind its sign. -/
def number? (negative : Bool) (cs : List Char) : Option (Json × List Char) := do
  let (whole, rest) := cs.span Literal.isDigit
  if whole.isEmpty || (whole.length > 1 && whole.head? == some '0') then none
  else
    let (fraction, rest) ← match rest with
      | '.' :: more =>
        let (ds, rest) := more.span Literal.isDigit
        if ds.isEmpty then none else some (ds, rest)
      | rest => some ([], rest)
    if fraction.isEmpty && !rest.head?.any isExponentMark then
      (integer? negative (Literal.digitsNat whole)).map fun x => (x, rest)
    else
      let (e, rest) ← exponent? rest
      let x ← real? negative (Literal.digitsNat (whole ++ fraction)) (e - fraction.length)
      some (x, rest)

/-- The value of four hexadecimal digits, and what follows. -/
def hexUnit? : List Char → Option (Nat × List Char)
  | a :: b :: c :: d :: rest => do
    let a ← Hex.digitValue? a
    let b ← Hex.digitValue? b
    let c ← Hex.digitValue? c
    let d ← Hex.digitValue? d
    some (((a * 16 + b) * 16 + c) * 16 + d, rest)
  | _ => none

/-- A character given by its number in one or two units. -/
def codePoint? (cs : List Char) : Option (Char × List Char) := do
  let (n, rest) ← hexUnit? cs
  if 0xdc00 ≤ n ∧ n ≤ 0xdfff then none
  else if 0xd800 ≤ n ∧ n ≤ 0xdbff then
    match rest with
    | '\\' :: 'u' :: more =>
      let (m, rest) ← hexUnit? more
      if 0xdc00 ≤ m ∧ m ≤ 0xdfff then
        some (Char.ofNat (0x10000 + (n - 0xd800) * 0x400 + (m - 0xdc00)), rest)
      else none
    | _ => none
  else some (Char.ofNat n, rest)

/-- A character behind a backslash. -/
def escaped? : List Char → Option (Char × List Char)
  | '"' :: rest => some ('"', rest)
  | '\\' :: rest => some ('\\', rest)
  | '/' :: rest => some ('/', rest)
  | 'b' :: rest => some (Char.ofNat 8, rest)
  | 'f' :: rest => some (Char.ofNat 12, rest)
  | 'n' :: rest => some ('\n', rest)
  | 'r' :: rest => some ('\r', rest)
  | 't' :: rest => some ('\t', rest)
  | 'u' :: rest => codePoint? rest
  | _ => none

/-- Reads a string up to its closing quote. The characters read so far stand in reverse. -/
def string? (read : List Char) (cs : List Char) : Option (String × List Char) :=
  match cs with
  | [] => none
  | '"' :: rest => some (String.ofList read.reverse, rest)
  | '\\' :: rest =>
    match escaped? rest with
    | none => none
    | some (c, after) =>
      if after.length < rest.length then string? (c :: read) after else none
  | c :: rest => if c.toNat < 32 then none else string? (c :: read) rest
termination_by cs.length

/-- What follows a word. -/
def word? (word : String) (cs : List Char) : Option (List Char) :=
  if word.toList.isPrefixOf cs then some (cs.drop word.length) else none

mutual

/-- Reads one value. Every call uses fuel; every array and object uses up a level of depth. -/
def value? : Nat → Nat → List Char → Option (Json × List Char)
  | 0, _, _ => none
  | fuel + 1, depth, cs =>
    match skipBlanks cs with
    | [] => none
    | '"' :: rest => (string? [] rest).map fun (s, rest) => (.string s, rest)
    | '[' :: rest =>
      if depth ≤ 1 then none
      else match skipBlanks rest with
        | ']' :: rest => some (.array [], rest)
        | rest => (items? fuel (depth - 1) [] rest).map fun (xs, rest) => (.array xs, rest)
    | '\x7b' :: rest =>
      if depth ≤ 1 then none
      else match skipBlanks rest with
        | '\x7d' :: rest => some (.object [], rest)
        | rest => (members? fuel (depth - 1) [] rest).map fun (xs, rest) => (.object xs, rest)
    | '-' :: rest => number? true rest
    | 'n' :: rest => (word? "ull" rest).map fun rest => (.null, rest)
    | 't' :: rest => (word? "rue" rest).map fun rest => (.bool true, rest)
    | 'f' :: rest => (word? "alse" rest).map fun rest => (.bool false, rest)
    | c :: rest => number? false (c :: rest)

/-- Reads the items of an array up to its end, those read so far in reverse. -/
def items? : Nat → Nat → List Json → List Char → Option (List Json × List Char)
  | 0, _, _, _ => none
  | fuel + 1, depth, read, cs =>
    match value? fuel depth cs with
    | none => none
    | some (x, rest) =>
      match skipBlanks rest with
      | ',' :: rest => items? fuel depth (x :: read) rest
      | ']' :: rest => some ((x :: read).reverse, rest)
      | _ => none

/-- Reads the members of an object up to its end, those read so far in reverse. -/
def members? : Nat → Nat → List (String × Json) → List Char →
    Option (List (String × Json) × List Char)
  | 0, _, _, _ => none
  | fuel + 1, depth, read, cs =>
    match skipBlanks cs with
    | '"' :: rest =>
      match string? [] rest with
      | none => none
      | some (key, rest) =>
        match skipBlanks rest with
        | ':' :: rest =>
          match value? fuel depth rest with
          | none => none
          | some (x, rest) =>
            match skipBlanks rest with
            | ',' :: rest => members? fuel depth ((key, x) :: read) rest
            | '\x7d' :: rest => some (((key, x) :: read).reverse, rest)
            | _ => none
        | _ => none
    | _ => none

end

/-- Reads a document that fills the text, with less than `depth` levels of nesting. -/
def parseWithin? (depth : Nat) (cs : List Char) : Option Json := do
  let (x, rest) ← value? (2 * cs.length + 2) depth cs
  if (skipBlanks rest).isEmpty then some x else none

/-- The limit of nesting. -/
def maxDepth : Nat := 128

/-- Reads a document that fills the text. -/
def parse? (s : String) : Option Json := parseWithin? maxDepth s.toList

end CertAudit.Json
