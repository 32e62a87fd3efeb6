/- Reading scalars of YAML texts: plain, quoted, and in blocks. Breaks within a scalar are folded:
one becomes a blank, of several the first goes. -/
import CertAudit.Text.Hex
import CertAudit.Yaml.Cursor
namespace CertAudit.Yaml

/-- Blanks and breaks between two parts of a scalar. -/
structure Gap where
  broken : Bool := false
  blanks : List Char := []
  firstBreak : List Char := []
  moreBreaks : List Char := []
deriving Repr, DecidableEq

namespace Gap

/-- The text of a gap. -/
def text (g : Gap) : List Char :=
  if !g.broken then g.blanks
  else if g.firstBreak = ['\n'] then
    if g.moreBreaks.isEmpty then [' '] else g.moreBreaks
  else g.firstBreak ++ g.moreBreaks

/-- Adds a line break. -/
def addBreak (g : Gap) (cs : List Char) : Gap :=
  if g.broken then { g with moreBreaks := g.moreBreaks ++ cs }
  else { g with broken := true, blanks := [], firstBreak := cs }

/-- Reads blanks and breaks. In a line after the first no tab may stand before the given column. -/
def read (indent : Nat) : Nat → Gap → Cursor → Option (Gap × Cursor)
  | 0, g, c => some (g, c)
  | fuel + 1, g, c =>
    match c.rest with
    | [] => some (g, c)
    | x :: _ =>
      if isBlank x then
        if g.broken then
          if x == '\t' && c.column < indent then none else read indent fuel g (c.skip 1)
        else read indent fuel { g with blanks := g.blanks ++ [x] } (c.skip 1)
      else if isBreak x then
        let (cs, c) := c.takeBreak
        read indent fuel (g.addBreak cs) c
      else some (g, c)

end Gap

namespace Plain

/-- Brackets, braces and commas, which end a plain text in a flow collection. -/
def isFlowSign (c : Char) : Bool := [',', '[', ']', '\x7b', '\x7d'].contains c

/-- Takes the characters up to a blank or to a sign that ends a plain text, those taken so far in
reverse. In a flow collection a colon must not touch such a sign or a question mark. -/
def part? (flow : Bool) (taken : List Char) : List Char → Option (List Char)
  | [] => some taken.reverse
  | c :: rest =>
    if isBlankOrBreak c then some taken.reverse
    else if flow && c == ':' && rest.head?.any fun d => isFlowSign d || d == '?' then none
    else if (c == ':' && blankFollows rest) || (flow && isFlowSign c) then some taken.reverse
    else part? flow (c :: taken) rest

/-- Reads a plain text on from some part of it. A line that is not indented enough, the mark of a
document or a comment ends it. Also tells whether it ends behind a line break. -/
def read (flow : Bool) (indent : Nat) : Nat → List Char → Gap → Cursor →
    Option (List Char × Bool × Cursor)
  | 0, text, g, c => some (text, g.broken, c)
  | fuel + 1, text, g, c =>
    if c.seesDocumentMark || c.seesChar '#' then some (text, g.broken, c)
    else do
      let part ← part? flow [] c.rest
      let (text, g) := if part.isEmpty then (text, g) else (text ++ g.text ++ part, {})
      let c := c.skip part.length
      if !c.sees fun x => isBlank x || isBreak x then some (text, g.broken, c)
      else
        let (g, c) ← Gap.read indent c.left {} c
        if !flow && c.column < indent then some (text, g.broken, c)
        else read flow indent fuel text g c

end Plain

namespace QuotedScalar

/-- What stands for a character behind a backslash. -/
def escapes : List (Char × Nat) := [('0', 0), ('a', 7), ('b', 8), ('t', 9), ('\t', 9), ('n', 10),
  ('v', 11), ('f', 12), ('r', 13), ('e', 27), (' ', 32), ('"', 34), ('/', 47), ('\\', 92),
  ('N', 0x85), ('_', 0xa0), ('L', 0x2028), ('P', 0x2029)]

/-- How many hexadecimal digits follow a letter. -/
def codeLength? : Char → Option Nat
  | 'x' => some 2
  | 'u' => some 4
  | 'U' => some 8
  | _ => none

/-- The character with a code point. -/
def charOf? (n : Nat) : Option Char := if n.isValidChar then some (Char.ofNat n) else none

/-- The character of hexadecimal digits. -/
def coded? (digits : List Char) : Option Char := do
  let values ← digits.mapM Hex.digitValue?
  charOf? (values.foldl (fun n d => n * 16 + d) 0)

/-- The character that an escape behind a backslash stands for, and the length of the escape. -/
def escape? : List Char → Option (Char × Nat)
  | [] => none
  | x :: rest =>
    match codeLength? x with
    | some n =>
      let digits := rest.take n
      if digits.length < n then none else (coded? digits).map fun c => (c, n + 1)
    | none => (escapes.lookup x).map fun n => (Char.ofNat n, 1)

/-- Takes a part of a text in quotes, up to a blank, a break or the closing quote. Also tells
whether an escaped break ended it. The part is given in reverse. -/
def part? (single : Bool) : Nat → List Char → Cursor → Option (List Char × Bool × Cursor)
  | 0, part, c => some (part, false, c)
  | fuel + 1, part, c =>
    match c.rest with
    | [] => some (part, false, c)
    | x :: rest =>
      if isBlankOrBreak x then some (part, false, c)
      else if single then
        if x != '\'' then part? single fuel (x :: part) (c.skip 1)
        else if rest.head? == some '\'' then part? single fuel ('\'' :: part) (c.skip 2)
        else some (part, false, c)
      else if x == '"' then some (part, false, c)
      else if x != '\\' then part? single fuel (x :: part) (c.skip 1)
      else if rest.head?.any isBreak then some (part, true, (c.skip 1).skipBreak)
      else do
        let (y, n) ← escape? rest
        part? single fuel (y :: part) (c.skip (n + 1))

/-- Reads a text on from some part of it up to the closing quote. -/
def read (single : Bool) : Nat → List Char → Cursor → Option (List Char × Cursor)
  | 0, _, _ => none
  | fuel + 1, text, c =>
    if c.seesDocumentMark || c.atEnd then none
    else do
      let (part, broken, c) ← part? single c.left [] c
      let text := text ++ part.reverse
      if c.seesChar (if single then '\'' else '"') then some (text, c.skip 1)
      else
        let (g, c) ← Gap.read 0 c.left { broken } c
        read single fuel (text ++ g.text) c

end QuotedScalar

namespace BlockScalar

/-- What happens to breaks at the end. -/
inductive Chomping
  | strip
  | clip
  | keep
deriving Repr, DecidableEq

/-- The chomping that a sign stands for. -/
def chomping? : Char → Option Chomping
  | '+' => some .keep
  | '-' => some .strip
  | _ => none

/-- Reads a sign of chomping, if one follows. -/
def readChomping (c : Cursor) : Option Chomping × Cursor :=
  match c.rest.head?.bind chomping? with
  | some k => (some k, c.skip 1)
  | none => (none, c)

/-- Reads a digit of indentation other than zero, if a digit follows. -/
def readIndent? (c : Cursor) : Option (Option Nat × Cursor) :=
  match c.rest with
  | x :: _ =>
    if !x.isDigit then some (none, c)
    else if x == '0' then none
    else some (some (x.toNat - 48), c.skip 1)
  | [] => some (none, c)

/-- Reads what may follow the opening sign: chomping and indentation in either order. -/
def readHeader? (c : Cursor) : Option (Chomping × Option Nat × Cursor) := do
  let (before, c) := readChomping c
  let (indent, c) ← readIndent? c
  let (behind, c) := if before.isNone && indent.isSome then readChomping c else (none, c)
  some ((before.or behind).getD .clip, indent, c)

/-- Skips blanks of indentation and takes breaks. Where the indentation is not known yet, all
blanks count, and the deepest column is given. A tab must not stand among them. -/
def breaks? (indent : Option Nat) : Nat → Nat → List Char → Cursor →
    Option (Nat × List Char × Cursor)
  | 0, deepest, read, c => some (deepest, read, c)
  | fuel + 1, deepest, read, c =>
    let blanks := (c.rest.takeWhile (· == ' ')).length
    let c := c.skip (match indent with
      | some n => min blanks (n - c.column)
      | none => blanks)
    let deepest := max deepest c.column
    let inside := match indent with
      | some n => c.column < n
      | none => true
    if inside && c.seesChar '\t' then none
    else if c.sees isBreak then
      let (cs, c) := c.takeBreak
      breaks? indent fuel deepest (read ++ cs) c
    else some (deepest, read, c)

/-- Whether the break between two lines is folded: neither of them begins with a blank. -/
def folds (literal : Bool) (pending : List Char) (afterBlank beforeBlank : Bool) : Bool :=
  !literal && pending == ['\n'] && !afterBlank && !beforeBlank

/-- Reads lines on from some text. The break behind the text is pending, more breaks follow it. -/
def lines? (literal : Bool) (indent : Nat) : Nat → List Char → List Char → List Char → Bool →
    Cursor → Option (List Char × List Char × List Char × Cursor)
  | 0, text, pending, more, _, c => some (text, pending, more, c)
  | fuel + 1, text, pending, more, afterBlank, c =>
    if c.column != indent || c.atEnd then some (text, pending, more, c)
    else do
      let blank := c.sees isBlank
      let joint :=
        if folds literal pending afterBlank blank then if more.isEmpty then [' '] else more
        else pending ++ more
      let (line, c) := c.takeWhile fun x => !isBreak x
      let (pending, c) := c.takeBreak
      let (_, more, c) ← breaks? (some indent) (c.left + 1) 0 [] c
      lines? literal indent fuel (text ++ joint ++ line) pending more blank c

/-- Reads a text in a block behind its opening sign. It is indented deeper than the collection
around it, by as much as its header or its first line says. -/
def read (literal : Bool) (outer : Int) (c : Cursor) : Option (List Char × Cursor) := do
  let (chomping, indent, c) ← readHeader? c
  let c ← c.endLine?
  let indent := indent.map fun n => (max outer 0).toNat + n
  let (deepest, more, c) ← breaks? indent (c.left + 1) 0 [] c
  let indent := indent.getD (max deepest (max (outer + 1) 1).toNat)
  let (text, pending, more, c) ← lines? literal indent (c.left + 1) [] [] more false c
  some (text ++ (match chomping with
    | .strip => []
    | .clip => pending
    | .keep => pending ++ more), c)

end BlockScalar
end CertAudit.Yaml
