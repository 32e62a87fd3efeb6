/- Writing documents as YAML in block style. -/
import CertAudit.Json.Basic
import CertAudit.Yaml.Character
import CertAudit.Yaml.Scalar
namespace CertAudit.Yaml

namespace Writer

/-- How the text of a string is written. -/
inductive Style
  | plain
  | single
  | double
  | literal
deriving Repr, DecidableEq

/-- Characters that may be written as they are. -/
def isPrintable (c : Char) : Bool :=
  let n := c.toNat
  n == 10 || (32 ≤ n && n ≤ 126) || (0xa0 ≤ n && n != 0xfeff && n != 0xfffe && n != 0xffff)

/-- Whether a character begins something else than a plain text. -/
def isOpening (c : Char) : Bool := "#,[]\x7b\x7d&*!|>'\"%@".toList.contains c || c.toNat == 0x60

/-- Whether something behind the first character has a meaning of its own: a colon before a blank
or a comment sign behind one. -/
def hasInnerIndicator (before : Char) : List Char → Bool
  | [] => false
  | c :: rest =>
    (c == ':' && blankFollows rest) || (c == '#' && isBlankOrBreak before) ||
      hasInnerIndicator c rest

/-- Whether a text would not be read as a plain one. -/
def hasIndicator (cs : List Char) : Bool :=
  "---".toList.isPrefixOf cs || "...".toList.isPrefixOf cs ||
    match cs with
    | [] => false
    | c :: rest =>
      isOpening c || ((c == '?' || c == ':' || c == '-') && blankFollows rest) ||
        hasInnerIndicator c rest

/-- Whether two neighbours are of two kinds. -/
def hasPair (p q : Char → Bool) : List Char → Bool
  | a :: b :: rest => (p a && q b) || hasPair p q (b :: rest)
  | _ => false

/-- Whether a text has a character of a kind at either end. -/
def atEnds (p : Char → Bool) (cs : List Char) : Bool := cs.head?.any p || cs.getLast?.any p

/-- Whether only double quotes can hold a text. -/
def needsDouble (cs : List Char) : Bool :=
  cs.any (fun c => !isPrintable c) || hasPair (· == ' ') isBreak cs

/-- Whether a text can stand on lines of its own. -/
def blockAllowed (cs : List Char) : Bool := !needsDouble cs && cs.getLast? != some ' '

/-- Whether single quotes can hold a text. -/
def singleAllowed (cs : List Char) : Bool := !needsDouble cs && !hasPair isBreak (· == ' ') cs

/-- Whether a text can do without quotes. -/
def plainAllowed (cs : List Char) : Bool :=
  singleAllowed cs && !cs.any isBreak && !atEnds (· == ' ') cs && !hasIndicator cs

/-- How a string is written. Texts that would be read as something else are quoted. -/
def styleOf (s : String) : Style :=
  let cs := s.toList
  if cs.contains '\n' then (if blockAllowed cs then .literal else .double)
  else if Scalar.ofText s = .text && !Scalar.isPaddedNumeral cs && plainAllowed cs then .plain
  else if singleAllowed cs then .single
  else .double

/-- The letters for characters that have one behind a backslash. -/
def escapeLetters : List (Nat × Char) := [(0, '0'), (7, 'a'), (8, 'b'), (9, 't'), (10, 'n'),
  (11, 'v'), (12, 'f'), (13, 'r'), (0x1b, 'e'), (0x22, '"'), (0x5c, '\\'), (0x85, 'N'),
  (0xa0, '_'), (0x2028, 'L'), (0x2029, 'P')]

/-- A number in capital hexadecimal digits of some width. -/
def hexDigits (width n : Nat) : List Char :=
  let ds := (Nat.toDigits 16 n).map Char.toUpper
  List.replicate (width - ds.length) '0' ++ ds

/-- A character between double quotes. -/
def doubleChar (c : Char) : List Char :=
  if isPrintable c && !isBreak c && c != '"' && c != '\\' then [c]
  else
    match escapeLetters.lookup c.toNat with
    | some letter => ['\\', letter]
    | none =>
      if c.toNat < 0x100 then '\\' :: 'x' :: hexDigits 2 c.toNat
      else if c.toNat < 0x10000 then '\\' :: 'u' :: hexDigits 4 c.toNat
      else '\\' :: 'U' :: hexDigits 8 c.toNat

/-- Blanks in front of a line. -/
def indentation (n : Nat) : List Char := List.replicate n ' '

/-- A text with blanks in front of every line of it that is not empty. -/
def indented (indent : Nat) (atStart : Bool) : List Char → List Char
  | [] => []
  | c :: rest =>
    if isBreak c then c :: indented indent true rest
    else (if atStart then indentation indent else []) ++ c :: indented indent false rest

/-- A text between single quotes, which are doubled within. A quote on a new line is indented. -/
def singleQuoted (indent : Nat) (cs : List Char) : List Char :=
  let quoted := cs.flatMap fun c => if c == '\'' then ['\'', '\''] else [c]
  '\'' :: indented indent false (quoted ++ ['\''])

/-- What tells how the line breaks at the end of a text on lines of its own are kept. -/
def chomping (cs : List Char) : List Char :=
  match cs.reverse with
  | [] => ['-']
  | [c] => if isBreak c then ['+'] else ['-']
  | c :: d :: _ => if !isBreak c then ['-'] else if isBreak d then ['+'] else []

/-- The sign of a text on lines of its own: it tells the indentation where the text does not. -/
def literalHeader (cs : List Char) : List Char :=
  '|' :: ((if cs.head?.any fun c => c == ' ' || isBreak c then ['2'] else []) ++ chomping cs)

/-- The text of a string, with lines of its own indented. -/
def stringChars (indent : Nat) (s : String) : List Char :=
  let cs := s.toList
  match styleOf s with
  | .plain => cs
  | .single => singleQuoted indent cs
  | .double => '"' :: cs.flatMap doubleChar ++ ['"']
  | .literal => literalHeader cs ++ '\n' :: indented indent true cs

/-- A text with a line feed behind it, unless it ends with a line break. -/
def ended (cs : List Char) : List Char :=
  if cs.getLast?.any isBreak then cs else cs ++ ['\n']

/-- The text of a number that is not an integer. -/
def realChars (x : Binary64) : List Char :=
  match x with
  | .nan => ".nan".toList
  | .infinity negative => (if negative then "-.inf" else ".inf").toList
  | x => (x.document?.getD "").toList

/-- The text of a value that is neither a list nor an object, or has nothing in it. -/
def leafChars (indent : Nat) : Json → List Char
  | .null => "null".toList
  | .bool b => (if b then "true" else "false").toList
  | .integer i => (toString i).toList
  | .real x => realChars x
  | .string s => stringChars indent s
  | .array _ => "[]".toList
  | .object _ => "\x7b\x7d".toList

mutual

/-- The text of a document behind the key before it, up to the end of its last line. -/
def valueChars (indent : Nat) : Json → List Char
  | .array (x :: rest) => '\n' :: itemsChars indent (x :: rest)
  | .object (m :: rest) => '\n' :: membersChars (indent + 2) (m :: rest)
  | j => ' ' :: ended (leafChars (indent + 2) j)

/-- The items of a list, each on a line of its own. -/
def itemsChars (indent : Nat) : List Json → List Char
  | [] => []
  | x :: rest => indentation indent ++ '-' :: itemChars indent x ++ itemsChars indent rest

/-- An item behind its hyphen. The first member of an object and the first item of a list stand on
the same line. -/
def itemChars (indent : Nat) : Json → List Char
  | .object ((key, x) :: rest) =>
    ' ' :: stringChars 0 key ++ ':' :: valueChars (indent + 2) x ++ membersChars (indent + 2) rest
  | .array (x :: rest) =>
    ' ' :: '-' :: itemChars (indent + 2) x ++ itemsChars (indent + 2) rest
  | j => ' ' :: ended (leafChars (indent + 2) j)

/-- The members of an object, each on a line of its own. -/
def membersChars (indent : Nat) : List (String × Json) → List Char
  | [] => []
  | (key, x) :: rest =>
    indentation indent ++ stringChars 0 key ++ ':' :: valueChars indent x ++
      membersChars indent rest

end

end Writer

/-- The text of a document. -/
def write (j : Json) : String :=
  String.ofList <| match j with
    | .object (m :: rest) => Writer.membersChars 0 (m :: rest)
    | j => (Writer.valueChars 0 j).drop 1

end CertAudit.Yaml
