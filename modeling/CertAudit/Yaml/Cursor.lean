/- A place in a text: what follows it, its line and column, and how far it is from both ends. The
way from the start is counted in bytes. -/
import CertAudit.Yaml.Character
namespace CertAudit.Yaml

/-- A place in a text. -/
structure Cursor where
  rest : List Char
  left : Nat := rest.length
  index : Nat := 0
  line : Nat := 0
  column : Nat := 0
deriving Repr, DecidableEq

namespace Cursor

/-- The number of bytes of a text. -/
def byteCount (cs : List Char) : Nat := cs.foldl (fun n c => n + c.utf8Size) 0

/-- Whether the text ends here. -/
def atEnd (c : Cursor) : Bool := c.rest.isEmpty

/-- Whether some character of a kind follows. -/
def sees (c : Cursor) (p : Char → Bool) : Bool := c.rest.head?.any p

/-- Whether a given character follows. -/
def seesChar (c : Cursor) (x : Char) : Bool := c.sees (· == x)

/-- The place some characters of the line further on. -/
def skip (c : Cursor) (n : Nat) : Cursor :=
  { c with
    rest := c.rest.drop n
    left := c.left - n
    index := c.index + byteCount (c.rest.take n)
    column := c.column + n }

/-- Takes characters of a kind, which line breaks are not. -/
def takeWhile (c : Cursor) (p : Char → Bool) : List Char × Cursor :=
  let cs := c.rest.takeWhile p
  (cs, c.skip cs.length)

/-- The place behind characters of a kind. -/
def skipWhile (c : Cursor) (p : Char → Bool) : Cursor := (c.takeWhile p).2

/-- Takes a line break, if one follows. All breaks but the separators of lines and paragraphs
become line feeds. -/
def takeBreak (c : Cursor) : List Char × Cursor :=
  match c.rest with
  | '\r' :: '\n' :: rest => (['\n'], ⟨rest, c.left - 2, c.index + 2, c.line + 1, 0⟩)
  | x :: rest =>
    if !isBreak x then ([], c)
    else
      (if x.toNat < 0x2000 then ['\n'] else [x],
        ⟨rest, c.left - 1, c.index + x.utf8Size, c.line + 1, 0⟩)
  | [] => ([], c)

/-- The place behind a line break, if one follows. -/
def skipBreak (c : Cursor) : Cursor := c.takeBreak.2

/-- Whether a mark stands alone at the start of a line. -/
def seesMark (c : Cursor) (mark : List Char) : Bool :=
  c.column == 0 && mark.isPrefixOf c.rest && blankFollows (c.rest.drop mark.length)

/-- Whether the mark of the start or the end of a document stands here. -/
def seesDocumentMark (c : Cursor) : Bool :=
  c.seesMark ['-', '-', '-'] || c.seesMark ['.', '.', '.']

/-- The place behind blanks and a comment at the end of a line, and behind its break. There must be
nothing else. -/
def endLine? (c : Cursor) : Option Cursor :=
  let c := c.skipWhile isBlank
  let c := if c.seesChar '#' then c.skipWhile fun x => !isBreak x else c
  if c.atEnd || c.sees isBreak then some c.skipBreak else none

end Cursor
end CertAudit.Yaml
