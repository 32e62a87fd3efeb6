/- The tokens of a YAML text. Tokens that begin a collection in blocks come from the indentation,
and a key may show only by the colon behind it: its token then goes in front of the tokens since. -/
import CertAudit.Yaml.Token.Property
import CertAudit.Yaml.Token.Scalar
namespace CertAudit.Yaml

/-- The place where a key may have begun: before which token, and whether it must be one. -/
structure KeyPlace where
  required : Bool
  number : Nat
  index : Nat
  line : Nat
  column : Nat
deriving Repr, DecidableEq

/-- A text read up to some place: the tokens so far, the indentation of the collections around the
place, the innermost first, and for each flow collection around it where a key may have begun,
and for what is outside of them. -/
structure TokenStream where
  cursor : Cursor
  tokens : Array Token := #[]
  indent : Int := -1
  indents : List Int := []
  keyAllowed : Bool := true
  keys : List (Option KeyPlace) := [none]
deriving Repr

namespace TokenStream

/-- Whether the place is in a flow collection. -/
def inFlow (s : TokenStream) : Bool := s.keys.length > 1

/-- Adds a token. -/
def push (s : TokenStream) (t : Token) : TokenStream := { s with tokens := s.tokens.push t }

/-- Adds a token of some characters that follow. -/
def pushSign (s : TokenStream) (t : Token) (length : Nat) : TokenStream :=
  { s.push t with cursor := s.cursor.skip length }

/-- Whether a key that began at a place can still be one: keys are at most 1024 bytes long and on
one line. -/
def isFresh (c : Cursor) (k : KeyPlace) : Bool := c.line ≤ k.line && c.index ≤ k.index + 1024

/-- Forgets places where a key can no longer have begun. -/
def dropStale (s : TokenStream) : Option TokenStream := do
  let keys ← s.keys.mapM fun
    | none => some none
    | some k =>
      if isFresh s.cursor k then some (some k) else if k.required then none else some none
  some { s with keys }

/-- Replaces the place where a key may have begun. One that must be a key cannot be replaced. -/
def setKey (s : TokenStream) (place : Option KeyPlace) : Option TokenStream :=
  match s.keys with
  | some k :: rest => if k.required then none else some { s with keys := place :: rest }
  | none :: rest => some { s with keys := place :: rest }
  | [] => none

/-- Notes that a key may begin here, if it may. -/
def saveKey (s : TokenStream) : Option TokenStream :=
  if !s.keyAllowed then some s
  else
    let c := s.cursor
    s.setKey (some {
      required := !s.inFlow && s.indent == c.column
      number := s.tokens.size
      index := c.index, line := c.line, column := c.column })

/-- Ends collections that are indented deeper than a column. -/
def unroll (s : TokenStream) (column : Int) : TokenStream :=
  if s.inFlow then s
  else
    let indents := s.indent :: s.indents
    let ended := indents.takeWhile fun n => column < n
    let left := indents.drop ended.length
    { s with
      tokens := s.tokens ++ ended.map fun _ => Token.blockEnd
      indent := left.head?.getD (-1)
      indents := left.tail }

/-- Begins a collection at a column deeper than those around it, with a token in a given place. -/
def roll (s : TokenStream) (column number : Nat) (t : Token) : TokenStream :=
  if s.inFlow || s.indent ≥ column then s
  else
    { s with
      tokens := s.tokens.insertIdxIfInBounds number t
      indent := column
      indents := s.indent :: s.indents }

/-- Skips blanks, comments and line breaks. A tab counts as a blank only where no key may begin. A
byte order mark at the start of a line is skipped as well; it takes up a column. -/
def skipBlanks : Nat → TokenStream → TokenStream
  | 0, s => s
  | fuel + 1, s =>
    let c := s.cursor
    let c := if c.column == 0 && c.seesChar byteOrderMark then c.skip 1 else c
    let tabs := s.inFlow || !s.keyAllowed
    let c := c.skipWhile fun x => x == ' ' || (tabs && x == '\t')
    let c := if c.seesChar '#' then c.skipWhile fun x => !isBreak x else c
    if c.sees isBreak then
      skipBlanks fuel { s with cursor := c.skipBreak, keyAllowed := s.keyAllowed || !s.inFlow }
    else { s with cursor := c }

/-- Ends everything at the end of the text or of a document. -/
def closeAll (s : TokenStream) : Option TokenStream := do
  let s ← (s.unroll (-1)).setKey none
  some { s with keyAllowed := false }

/-- Begins a flow collection. -/
def openFlow (s : TokenStream) (t : Token) : Option TokenStream := do
  let s ← s.saveKey
  some ({ s with keys := none :: s.keys, keyAllowed := true }.pushSign t 1)

/-- Ends a flow collection. -/
def closeFlow (s : TokenStream) (t : Token) : Option TokenStream := do
  let s ← s.setKey none
  let keys := if s.inFlow then s.keys.tail else s.keys
  some ({ s with keys, keyAllowed := false }.pushSign t 1)

/-- A comma between items of a flow collection. -/
def flowEntry (s : TokenStream) : Option TokenStream := do
  let s ← s.setKey none
  some ({ s with keyAllowed := true }.pushSign .flowEntry 1)

/-- Begins a collection here, unless a flow collection is around. -/
def beginHere (s : TokenStream) (t : Token) : Option TokenStream :=
  if s.inFlow then some s
  else if !s.keyAllowed then none
  else some (s.roll s.cursor.column s.tokens.size t)

/-- A dash before an item of a sequence. -/
def blockEntry (s : TokenStream) : Option TokenStream := do
  let s ← s.beginHere .sequenceStart
  let s ← s.setKey none
  some ({ s with keyAllowed := true }.pushSign .blockEntry 1)

/-- A question mark before a key. -/
def explicitKey (s : TokenStream) : Option TokenStream := do
  let s ← s.beginHere .mappingStart
  let s ← s.setKey none
  some ({ s with keyAllowed := !s.inFlow }.pushSign .key 1)

/-- A colon before a value. The key may have begun before. -/
def mappingValue (s : TokenStream) : Option TokenStream :=
  match s.keys with
  | some k :: rest =>
    let s := { s with keys := none :: rest, tokens := s.tokens.insertIdxIfInBounds k.number .key }
    some ({ s.roll k.column k.number .mappingStart with keyAllowed := false }.pushSign .value 1)
  | _ => do
    let s ← s.beginHere .mappingStart
    some ({ s with keyAllowed := !s.inFlow }.pushSign .value 1)

/-- A token that a key may begin with. -/
def keyToken (s : TokenStream) (read : Cursor → Option (Token × Cursor)) : Option TokenStream := do
  let s ← s.saveKey
  let (t, cursor) ← read s.cursor
  some { s.push t with cursor, keyAllowed := false }

/-- A text in a block. -/
def blockScalar (s : TokenStream) (literal : Bool) : Option TokenStream := do
  let s ← s.setKey none
  let (text, cursor) ← BlockScalar.read literal s.indent (s.cursor.skip 1)
  some { s.push (.scalar false (String.ofList text)) with cursor, keyAllowed := true }

/-- A text in quotes. -/
def quotedScalar (s : TokenStream) (single : Bool) : Option TokenStream :=
  s.keyToken fun c => do
    let (text, c) ← QuotedScalar.read single (c.left + 1) [] (c.skip 1)
    some (.scalar false (String.ofList text), c)

/-- A plain text. Behind one that ends with a line break a key may begin. -/
def plainScalar (s : TokenStream) : Option TokenStream := do
  let s ← s.saveKey
  let c := s.cursor
  let (text, broken, cursor) ←
    Plain.read s.inFlow (s.indent + 1).toNat (c.left + 1) [] {} c
  some { s.push (.scalar true (String.ofList text)) with cursor, keyAllowed := broken }

/-- A directive. -/
def directive (s : TokenStream) : Option TokenStream := do
  let s ← s.closeAll
  let (t, cursor) ← Directive.read s.cursor
  some { s.push t with cursor }

/-- The mark of the start or the end of a document. -/
def documentMark (s : TokenStream) (t : Token) : Option TokenStream := do
  let s ← s.closeAll
  some (s.pushSign t 3)

/-- Signs that no plain text begins with. -/
def isSign (c : Char) : Bool :=
  "-?:,[]\x7b\x7d#&*!|>'\"%@".toList.contains c || c.toNat == 0x60

/-- Whether a plain text begins with a sign and what follows it. -/
def beginsPlain (flow : Bool) (x : Char) (rest : List Char) : Bool :=
  if !isSign x then !isBlankOrBreak x
  else if x == '-' then !rest.head?.any isBlank
  else !flow && (x == '?' || x == ':') && !blankFollows rest

/-- Reads the token that begins with a character. -/
def readToken (s : TokenStream) (x : Char) (rest : List Char) : Option TokenStream :=
  let c := s.cursor
  let apart := s.inFlow || blankFollows rest
  if c.column == 0 && x == '%' then s.directive
  else if c.seesMark ['-', '-', '-'] then s.documentMark .documentStart
  else if c.seesMark ['.', '.', '.'] then s.documentMark .documentEnd
  else if x == '[' then s.openFlow .flowSequenceStart
  else if x == '\x7b' then s.openFlow .flowMappingStart
  else if x == ']' then s.closeFlow .flowSequenceEnd
  else if x == '\x7d' then s.closeFlow .flowMappingEnd
  else if x == ',' then s.flowEntry
  else if x == '-' && blankFollows rest then s.blockEntry
  else if x == '?' && apart then s.explicitKey
  else if x == ':' && apart then s.mappingValue
  else if x == '*' then s.keyToken fun c => (AnchorName.read c).map fun (n, c) => (.alias n, c)
  else if x == '&' then s.keyToken fun c => (AnchorName.read c).map fun (n, c) => (.anchor n, c)
  else if x == '!' then
    s.keyToken fun c => (TagName.read s.inFlow c).map fun (t, c) => (.tag t.1 t.2, c)
  else if x == '|' && !s.inFlow then s.blockScalar true
  else if x == '>' && !s.inFlow then s.blockScalar false
  else if x == '\'' then s.quotedScalar true
  else if x == '"' then s.quotedScalar false
  else if beginsPlain s.inFlow x rest then s.plainScalar
  else none

/-- Reads token after token up to the end of the text. -/
def run : Nat → TokenStream → Option (List Token)
  | 0, _ => none
  | fuel + 1, s => do
    let s ← (s.skipBlanks (s.cursor.left + 1)).dropStale
    let s := s.unroll s.cursor.column
    match s.cursor.rest with
    | [] => s.closeAll.map fun s => s.tokens.toList
    | x :: rest => (s.readToken x rest).bind (run fuel)

end TokenStream

/-- The tokens of a text, all of whose characters must be allowed. -/
def Token.ofText? (text : String) : Option (List Token) :=
  let cs := text.toList
  if cs.all isAllowed then TokenStream.run (cs.length + 2) { cursor := { rest := cs } } else none

end CertAudit.Yaml
