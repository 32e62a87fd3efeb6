/- Reading regular expressions. -/
import CertAudit.Pattern.Expr
import CertAudit.Number.Literal
import CertAudit.Unicode
namespace CertAudit.Pattern

/-- What is left to read, whether blanks and comments count, and the group names used so far. -/
structure Cursor where
  rest : List Char
  ignoresBlanks : Bool := false
  names : List String := []

/-- A reader that may fail. -/
abbrev Reader := StateT Cursor Option

namespace Reader

/-- Drops blanks and comments. -/
def dropBlanks (inComment : Bool) : List Char → List Char
  | [] => []
  | c :: rest =>
    if inComment then dropBlanks (c != '\n') rest
    else if Unicode.isWhiteSpace c then dropBlanks false rest
    else if c == '#' then dropBlanks true rest
    else c :: rest

/-- Skips blanks and comments where they do not count. -/
def skip : Reader Unit :=
  modify fun s => if s.ignoresBlanks then { s with rest := dropBlanks false s.rest } else s

/-- What is left to read. -/
def rest : Reader (List Char) := return (← get).rest

/-- The next character. -/
def peek? : Reader (Option Char) := return (← get).rest.head?

/-- The first sign that is no blank; the first sign of a comment's text counts as well, and where
there is none, the first character. -/
def firstSign? (cs : List Char) : Option Char :=
  (go false cs).or cs.head?
where
  go (inComment : Bool) : List Char → Option Char
    | [] => none
    | c :: rest =>
      if Unicode.isWhiteSpace c then go inComment rest
      else if !inComment && c == '#' then go true rest
      else some c

/-- A look at what stands behind the next character, blanks skipped. -/
def peekSecond? : Reader (Option Char) := do
  let s ← get
  let more := s.rest.drop 1
  return if s.ignoresBlanks then firstSign? more else more.head?

/-- The next character, which there has to be. -/
def current : Reader Char := do
  match ← peek? with
  | some c => return c
  | none => failure

/-- Drops the next character. -/
def advance : Reader Unit := modify fun s => { s with rest := s.rest.drop 1 }

/-- Drops the next character, and blanks behind it. -/
def advanceSkip : Reader Unit := do
  advance
  skip

/-- Drops a text if it comes next, and tells whether it did. -/
def advanceIf (text : String) : Reader Bool := do
  let s ← get
  if text.toList.isPrefixOf s.rest then
    set { s with rest := s.rest.drop text.length }
    return true
  else return false

/-- Drops characters of some kind, with blanks behind each, and gives them back. The fuel is the
number of characters left. -/
def collect (p : Char → Bool) : Nat → Reader (List Char)
  | 0 => return []
  | fuel + 1 => do
    match ← peek? with
    | some c =>
      if p c then
        advanceSkip
        return c :: (← collect p fuel)
      else return []
    | none => return []

/-- Drops all characters of some kind. -/
def collectAll (p : Char → Bool) : Reader (List Char) := do collect p (← rest).length

/-- Characters with a meaning of their own. -/
def isMeta (c : Char) : Bool := "\\.+*?()|[]\x7b\x7d^$#&-~".toList.contains c

/-- Characters that a backslash makes literal. -/
def isEscapable (c : Char) : Bool :=
  isMeta c || (c.toNat < 128 && !c.isAlphanum && c != '<' && c != '>')

/-- What a backslash and what follows it stand for. -/
inductive Escape
  | literal (l : Literal)
  | set (c : ClassExpr)
  | anchor (a : Anchor)

/-- The character with a number in hexadecimal. -/
def hexChar (ds : List Char) : Reader Char :=
  match Literal.natIn? 16 ds with
  | some n => if h : n.isValidChar then return Char.ofNatAux n h else failure
  | none => failure

/-- Whether a character is a hexadecimal digit. -/
def isHex (c : Char) : Bool := (Literal.digitIn? 16 c).isSome

/-- Reads exactly some hexadecimal digits. -/
def hexDigits : Nat → Reader (List Char)
  | 0 => return []
  | n + 1 => do
    let c ← current
    if isHex c then
      advanceSkip
      return c :: (← hexDigits n)
    else failure

/-- Reads the digits behind `\x`, `\u` or `\U`, in braces or of a fixed number. -/
def hexEscape (digits : Nat) : Reader Escape := do
  advanceSkip
  if (← current) == '\x7b' then
    advanceSkip
    let ds ← collectAll (· != '\x7d')
    let _ ← current
    advanceSkip
    return .literal { char := ← hexChar (if ds.all isHex then ds else []) }
  else
    return .literal { char := ← hexChar (← hexDigits digits), isByte := digits == 2 }

/-- The text before a separator and the text behind it. -/
def cutAt? (sep : List Char) : List Char → Option (List Char × List Char)
  | [] => none
  | c :: rest =>
    if sep.isPrefixOf (c :: rest) then some ([], (c :: rest).drop sep.length)
    else (cutAt? sep rest).map fun (a, b) => (c :: a, b)

/-- A property, with a name and a value or with either. -/
def propertyClass (negated : Bool) (cs : List Char) : ClassExpr :=
  match cutAt? "!=".toList cs with
  | some (key, value) =>
    .property (!negated) (some (String.ofList key)) (String.ofList value)
  | none =>
    match (cutAt? [':'] cs).or (cutAt? ['='] cs) with
    | some (key, value) => .property negated (some (String.ofList key)) (String.ofList value)
    | none => .property negated none (String.ofList cs)

/-- Reads the property behind `\p` or `\P`. -/
def propertyEscape (negated : Bool) : Reader Escape := do
  advanceSkip
  let c ← current
  if c == '\x7b' then
    advanceSkip
    let cs ← collectAll (· != '\x7d')
    let _ ← current
    advance
    return .set (propertyClass negated cs)
  else if c == '\\' then failure
  else
    advanceSkip
    return .set (.property negated none (String.ofList [c]))

/-- Reads a word boundary that names its side in braces. Braces that hold no name are left to be
read as a count. -/
def boundaryEscape : Reader Escape := do
  let saved ← get
  if (← peek?) == some '\x7b' then
    advanceSkip
    let isNameChar := fun (c : Char) => c.isAlpha || c == '-'
    if isNameChar (← current) then
      let name ← collectAll isNameChar
      if (← peek?) == some '\x7d' then
        advance
        match String.ofList name with
        | "start" => return .anchor .wordStart
        | "end" => return .anchor .wordEnd
        | "start-half" => return .anchor .wordStartHalf
        | "end-half" => return .anchor .wordEndHalf
        | _ => failure
      else failure
    else
      set saved
      return .anchor .wordBoundary
  else return .anchor .wordBoundary

/-- Characters that a backslash and a letter stand for. -/
def letterChars : List (Char × Nat) :=
  [('a', 7), ('f', 12), ('t', 9), ('n', 10), ('r', 13), ('v', 11)]

/-- Classes that a backslash and a letter stand for. -/
def letterClasses : List (Char × Bool × LetterClass) := [
  ('d', false, .digit), ('D', true, .digit), ('s', false, .space), ('S', true, .space),
  ('w', false, .word), ('W', true, .word)]

/-- Reads what a backslash introduces. -/
def escape : Reader Escape := do
  advance
  let c ← current
  if c.isDigit then failure
  else if c == 'x' then hexEscape 2
  else if c == 'u' then hexEscape 4
  else if c == 'U' then hexEscape 8
  else if c == 'p' then propertyEscape false
  else if c == 'P' then propertyEscape true
  else
    advance
    match letterClasses.lookup c, letterChars.lookup c with
    | some (negated, kind), _ => return .set (.letter negated kind)
    | none, some n => return .literal { char := Char.ofNat n }
    | none, none =>
      if isEscapable c then return .literal { char := c }
      else match c with
        | 'A' => return .anchor .textStart
        | 'z' => return .anchor .textEnd
        | 'b' => boundaryEscape
        | 'B' => return .anchor .notWordBoundary
        | '<' => return .anchor .wordStart
        | '>' => return .anchor .wordEnd
        | _ => failure

/-- The names of classes of ASCII characters. -/
def asciiNames : List String := ["alnum", "alpha", "ascii", "blank", "cntrl", "digit", "graph",
  "lower", "print", "punct", "space", "upper", "word", "xdigit"]

/-- Reads a class such as `[:alpha:]`; anything else is left unread. -/
def asciiClass? : Reader (Option ClassExpr) := do
  let s ← get
  let (negated, cs) := match s.rest with
    | '[' :: ':' :: '^' :: cs => (true, some cs)
    | '[' :: ':' :: cs => (false, some cs)
    | _ => (false, none)
  match cs with
  | none => return none
  | some cs =>
    let (name, more) := cs.span (· != ':')
    match more with
    | ':' :: ']' :: more =>
      if asciiNames.contains (String.ofList name) then
        set { s with rest := more }
        return some (.ascii negated (String.ofList name))
      else return none
    | _ => return none

/-- Reads one item of a set: an escape or a character. -/
def setItem : Reader Escape := do
  if (← current) == '\\' then escape
  else
    let c ← current
    advance
    return .literal { char := c }

/-- Reads an item of a set, or a range of characters. -/
def setRange : Reader ClassExpr := do
  let first ← setItem
  skip
  let c ← current
  let second ← peekSecond?
  if c != '-' || second == some ']' || second == some '-' then
    match first with
    | .literal l => return .range l l
    | .set s => return s
    | .anchor _ => failure
  else
    advanceSkip
    let _ ← current
    let last ← setItem
    match first, last with
    | .literal a, .literal b => if a.char ≤ b.char then return .range a b else failure
    | _, _ => failure

/-- An operation on sets, if its signs come next. -/
def setOperation? : Reader (Option SetOperation) := do
  if ← advanceIf "&&" then return some .intersection
  else if ← advanceIf "--" then return some .difference
  else if ← advanceIf "~~" then return some .symmetricDifference
  else return none

/-- Joins the items read last to what an operation has been read for. -/
def joined (left : Option (ClassExpr × SetOperation)) (items : List ClassExpr) : ClassExpr :=
  match left with
  | some (e, operation) => .combined operation e (.union items.reverse)
  | none => .union items.reverse

/-- Reads hyphens at the start of a set. -/
def leadingHyphens : Nat → Reader (List ClassExpr)
  | 0 => return []
  | fuel + 1 => do
    if (← current) == '-' then
      advanceSkip
      return .range { char := '-' } { char := '-' } :: (← leadingHyphens fuel)
    else return []

mutual

/-- Reads a set from its opening bracket to its closing one. -/
def bracketed : Nat → Reader ClassExpr
  | 0 => failure
  | fuel + 1 => do
    advanceSkip
    let negated := (← current) == '^'
    if negated then advanceSkip
    let hyphens ← leadingHyphens fuel
    let bracket ← if hyphens.isEmpty && (← current) == ']' then do
        advanceSkip
        pure [ClassExpr.range { char := ']' } { char := ']' }]
      else pure []
    let _ ← current
    return .bracketed negated (← setItems fuel none (bracket ++ hyphens))

/-- Reads the items of a set up to its closing bracket, those read so far in reverse. -/
def setItems : Nat → Option (ClassExpr × SetOperation) → List ClassExpr → Reader ClassExpr
  | 0, _, _ => failure
  | fuel + 1, left, items => do
    skip
    let c ← current
    if c == '[' then
      match ← asciiClass? with
      | some e => setItems fuel left (e :: items)
      | none => setItems fuel left ((← bracketed fuel) :: items)
    else if c == ']' then
      advance
      return joined left items
    else
      match ← setOperation? with
      | some operation => setItems fuel (some (joined left items, operation)) []
      | none => setItems fuel left ((← setRange) :: items)

end

/-- The letters of flags. -/
def flagOf? : Char → Option Flag
  | 'i' => some .caseless
  | 'm' => some .multiLine
  | 's' => some .dotAll
  | 'U' => some .swapGreed
  | 'u' => some .unicode
  | 'R' => some .crlf
  | 'x' => some .ignoreBlanks
  | _ => none

/-- Reads flags up to a colon or a closing parenthesis. Those behind a hyphen are cleared; no flag
and no hyphen comes twice, and a flag follows the hyphen. -/
def flagChanges (cleared dangling : Bool) (found : List (Flag × Bool)) :
    List Char → Option (List (Flag × Bool) × List Char)
  | [] => none
  | c :: rest =>
    if c == ':' || c == ')' then
      if dangling then none else some (found.reverse, c :: rest)
    else if c == '-' then
      if cleared then none else flagChanges true true found rest
    else
      match flagOf? c with
      | none => none
      | some f =>
        if found.any (·.1 == f) then none
        else flagChanges cleared false ((f, !cleared) :: found) rest

/-- Whether flags say that blanks do not count, if they say anything on it. -/
def blanksChange? (changes : List (Flag × Bool)) : Option Bool := changes.lookup .ignoreBlanks

/-- Whether a character may stand in the name of a group. -/
def isNameChar (first : Bool) (c : Char) : Bool :=
  c == '_' || Unicode.isAlphabetic c ||
    (!first && (c == '.' || c == '[' || c == ']' || Unicode.isNumeric c))

/-- Reads the name of a group and the sign that ends it. -/
def groupName : Reader Unit := do
  let s ← get
  let (name, more) := s.rest.span (· != '>')
  match name, more with
  | c :: cs, _ :: more =>
    let text := String.ofList name
    if isNameChar true c && cs.all (isNameChar false) && !s.names.contains text then
      set { s with rest := more, names := text :: s.names }
    else failure
  | _, _ => failure

/-- Reads a count, with blanks around it. -/
def count : Reader Nat := do
  modify fun s => { s with rest := s.rest.dropWhile Unicode.isWhiteSpace }
  let ds ← collectAll Literal.isDigit
  modify fun s => { s with rest := s.rest.dropWhile Unicode.isWhiteSpace }
  let n := Literal.digitsNat ds
  if ds.isEmpty || n ≥ UInt32.size then failure else return n

/-- Reads counts in braces. -/
def counts : Reader (Nat × Option Nat) := do
  advanceSkip
  let least ← count
  let greatest ← if (← current) == ',' then do
      advanceSkip
      if (← current) == '\x7d' then pure none else pure (some (← count))
    else pure (some least)
  if (← current) != '\x7d' then failure
  advanceSkip
  let _ ← advanceIf "?"
  match greatest with
  | some n => if least ≤ n then return (least, greatest) else failure
  | none => return (least, greatest)

/-- The last part read, to be repeated. Flags cannot be. -/
def repeatable : List Expr → Reader (Expr × List Expr)
  | [] => failure
  | .flags _ :: _ => failure
  | e :: parts => return (e, parts)

/-- What a closing parenthesis or the end leaves of the options of a choice and the parts of the
last option, both read in reverse. -/
def closed (options : List Expr) (parts : List Expr) : Expr :=
  match options with
  | [] => .concat parts.reverse
  | _ => .choice ((.concat parts.reverse :: options).reverse)

/-- Reads a part that is no group, no choice and no repetition. -/
def simplePart (fuel : Nat) : Reader Expr := do
  let c ← current
  if c == '[' then return .set (← bracketed fuel)
  else if c == '\\' then
    match ← escape with
    | .literal l => return .literal l
    | .set s => return .set s
    | .anchor a => return .anchor a
  else
    advance
    if c == '.' then return .dot
    else if c == '^' then return .anchor .lineStart
    else if c == '$' then return .anchor .lineEnd
    else return .literal { char := c }

mutual

/-- Reads parts up to a closing parenthesis or the end. Every call uses fuel. -/
def parts : Nat → List Expr → List Expr → Reader Expr
  | 0, _, _ => failure
  | fuel + 1, options, read => do
    skip
    match ← peek? with
    | none => return closed options read
    | some ')' => return closed options read
    | some '|' =>
      advance
      parts fuel (.concat read.reverse :: options) []
    | some '(' =>
      let e ← group fuel
      parts fuel options (e :: read)
    | some '?' =>
      let (e, read) ← repeatable read
      advance
      let _ ← advanceIf "?"
      parts fuel options (.repeated 0 (some 1) e :: read)
    | some '*' =>
      let (e, read) ← repeatable read
      advance
      let _ ← advanceIf "?"
      parts fuel options (.repeated 0 none e :: read)
    | some '+' =>
      let (e, read) ← repeatable read
      advance
      let _ ← advanceIf "?"
      parts fuel options (.repeated 1 none e :: read)
    | some '\x7b' =>
      let (e, read) ← repeatable read
      let (least, greatest) ← counts
      parts fuel options (.repeated least greatest e :: read)
    | some _ =>
      let e ← simplePart fuel
      parts fuel options (e :: read)

/-- Reads a group, or a change of flags for what follows it. -/
def group : Nat → Reader Expr
  | 0 => failure
  | fuel + 1 => do
    advance
    skip
    let cs ← rest
    if ["?=", "?!", "?<=", "?<!"].any fun p => p.toList.isPrefixOf cs then failure
    else if ← advanceIf "?P<" then
      groupName
      groupBody fuel []
    else if ← advanceIf "?<" then
      groupName
      groupBody fuel []
    else if ← advanceIf "?" then
      match flagChanges false false [] (← rest) with
      | none => failure
      | some (changes, ')' :: more) =>
        if changes.isEmpty then failure
        modify fun s =>
          { s with rest := more, ignoresBlanks := (blanksChange? changes).getD s.ignoresBlanks }
        return .flags changes
      | some (changes, more) =>
        modify fun s => { s with rest := more.drop 1 }
        groupBody fuel changes
    else groupBody fuel []

/-- Reads the body of a group and its closing parenthesis. -/
def groupBody : Nat → List (Flag × Bool) → Reader Expr
  | 0, _ => failure
  | fuel + 1, changes => do
    let before := (← get).ignoresBlanks
    modify fun s => { s with ignoresBlanks := (blanksChange? changes).getD before }
    let body ← parts fuel [] []
    if (← peek?) != some ')' then failure
    advance
    modify fun s => { s with ignoresBlanks := before }
    return .group changes body

end

end Reader

/-- Reads an expression that fills a text and is not nested too deep. -/
def Expr.ofText? (s : String) : Option Expr := do
  let cs := s.toList
  let (e, cursor) ← (Reader.parts (4 * cs.length + 4) [] []).run { rest := cs }
  if cursor.rest.isEmpty && e.depth ≤ Expr.depthLimit then some e else none

end CertAudit.Pattern
