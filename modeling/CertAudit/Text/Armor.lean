/- Armored text: base64 between a line that begins a block and a line that ends it. -/
import CertAudit.Text.Base64
import CertAudit.Unicode
namespace CertAudit

/-- A block of armored text. -/
structure ArmorBlock where
  label : String
  content : Bytes
deriving Repr, DecidableEq

namespace Armor

/-- Whether the first signs that are not blank begin a block. -/
def isArmored (bs : Bytes) : Bool :=
  (Bytes.ofString "-----BEGIN").isPrefixOf (bs.dropWhile Bytes.isBlank)

/-- The lines of a text, each with the line feed that ends it. -/
def lines (bs : Bytes) : List Bytes :=
  let (line, done) := bs.foldl (fun (line, done) b =>
    if b == 0x0a then ([], (b :: line).reverse :: done) else (b :: line, done)) ([], [])
  (if line.isEmpty then done else line.reverse :: done).reverse

/-- The text up to five hyphens, where there are five. -/
def beforeDashes? : List Char → Option (List Char)
  | '-' :: '-' :: '-' :: '-' :: '-' :: _ => some []
  | c :: rest => (beforeDashes? rest).map (c :: ·)
  | [] => none

/-- The signs that begin the first line of a block. -/
def opening : List Char := "-----BEGIN ".toList

/-- The signs that begin the last line of a block. -/
def closing : List Char := "-----END ".toList

/-- The label in the first line of a block, up to its first hyphen. -/
def label? (line : List Char) : Option String :=
  (beforeDashes? (line.drop opening.length)).map fun cs => String.ofList (cs.takeWhile (· != '-'))

/-- The base64 signs up to the last line of a block, and the lines behind it. The signs of the
lines before stand in reverse order of lines. -/
def body? (done : List (List Char)) : List Bytes → Option (List Char × List Bytes)
  | [] => none
  | line :: rest =>
    match Bytes.toString? line with
    | none => none
    | some text =>
      if closing.isPrefixOf text.toList then some (done.reverse.flatten, rest)
      else body? (Unicode.trimEnd text.toList :: done) rest

/-- What comes first in lines: a block and the lines behind it, a block that cannot be read, or
no block at all. -/
inductive Reading
  | block (found : ArmorBlock) (rest : List Bytes)
  | broken
  | missing

/-- Reads the block whose first line has been found. -/
def readBody (first : List Char) (rest : List Bytes) : Reading :=
  match label? first with
  | none => .broken
  | some label =>
    match body? [] rest with
    | none => .broken
    | some (signs, rest) =>
      match Base64.decodeChain? (Bytes.ofString (String.ofList signs)) with
      | none => .broken
      | some content => .block { label, content } rest

/-- Reads the first block. Other lines before it only have to be text. -/
def readFirst : List Bytes → Reading
  | [] => .missing
  | line :: rest =>
    match Bytes.toString? line with
    | none => .broken
    | some text =>
      if opening.isPrefixOf text.toList then readBody text.toList rest else readFirst rest

/-- The blocks of lines up to the first that cannot be read, and whether there is one. The fuel
is the number of lines. -/
def readBlocks : Nat → List Bytes → List ArmorBlock × Bool
  | 0, _ => ([], false)
  | fuel + 1, lines =>
    match readFirst lines with
    | .missing => ([], false)
    | .broken => ([], true)
    | .block b rest =>
      let (blocks, broken) := readBlocks fuel rest
      (b :: blocks, broken)

/-- The first block of a text. -/
def first? (bs : Bytes) : Option ArmorBlock :=
  match readFirst (lines bs) with
  | .block b _ => some b
  | _ => none

/-- The blocks of a text up to the first that cannot be read, and whether there is one. -/
def blocks (bs : Bytes) : List ArmorBlock × Bool :=
  let ls := lines bs
  readBlocks ls.length ls

end Armor
end CertAudit
