/- The nodes of YAML documents, as their tokens spell them. -/
import CertAudit.Yaml.Token
namespace CertAudit.Yaml

/-- A node with its tag and the number of its anchor. An alias has the number of an anchor. -/
inductive Node
  | alias (id : Nat)
  | scalar (anchor : Option Nat) (tag : Option Bytes) (plain : Bool) (text : String)
  | sequence (anchor : Option Nat) (tag : Option Bytes) (items : List Node)
  | mapping (anchor : Option Nat) (tag : Option Bytes) (entries : List (Node × Node))
deriving Repr, Inhabited

namespace Node

/-- The node where a text leaves one out. -/
def missing : Node := .scalar none none true ""

/-- What is left to read of a document, and the numbers of the anchors by their names. -/
structure Progress where
  tokens : List Token
  anchors : List (String × Nat) := []

/-- Reading some part of a document. -/
abbrev Reading := StateT Progress Option

/-- The next token. -/
def peek : Reading (Option Token) := do return (← get).tokens.head?

/-- Passes over a token. -/
def advance : Reading Unit := modify fun p => { p with tokens := p.tokens.tail }

/-- Passes over the next token if it is the given one, and tells whether it was. -/
def accept (t : Token) : Reading Bool := do
  if (← peek) == some t then
    advance
    return true
  else return false

/-- Passes over a token that must be there. -/
def expect (t : Token) : Reading Unit := do
  if !(← accept t) then failure

/-- Whether one of some tokens comes next. -/
def nextIsIn (ts : List Token) : Reading Bool := do
  return ((← peek).any fun t => ts.contains t)

/-- The number of a new anchor: how many names there are. A name that is used again does not count
as another one. -/
def newAnchor (name : String) : Reading Nat := do
  let p ← get
  let id := p.anchors.length
  set { p with anchors := (name, id) :: p.anchors.filter fun a => a.1 != name }
  return id

/-- The properties before a node: its anchor and its tag, in either order. -/
structure Properties where
  anchor : Option String := none
  tag : Option (String × Bytes) := none

/-- Reads an anchor, if one comes next. -/
def readAnchor : Reading (Option String) := do
  match ← peek with
  | some (.anchor name) =>
    advance
    return some name
  | _ => return none

/-- Reads a tag, if one comes next. -/
def readTag : Reading (Option (String × Bytes)) := do
  match ← peek with
  | some (.tag handle suffix) =>
    advance
    return some (handle, suffix)
  | _ => return none

/-- Reads properties. -/
def readProperties : Reading Properties := do
  match ← readAnchor with
  | some name => return { anchor := some name, tag := ← readTag }
  | none =>
    match ← readTag with
    | some tag => return { anchor := ← readAnchor, tag := some tag }
    | none => return {}

/-- The bytes of a tag; its handle must be known. -/
def tagBytes (handles : List (String × Bytes)) : Option (String × Bytes) → Reading (Option Bytes)
  | none => return none
  | some (handle, suffix) =>
    if handle = "" then return some suffix
    else
      match handles.lookup handle with
      | some lead => return some (lead ++ suffix)
      | none => failure

mutual

/-- Reads a node. Collections in blocks are read where they may stand, and so are sequences that
are not indented. -/
def read (handles : List (String × Bytes)) (block indentless : Bool) : Nat → Reading Node
  | 0 => failure
  | fuel + 1 => do
    if let some (.alias name) ← peek then
      advance
      match (← get).anchors.lookup name with
      | some id => return .alias id
      | none => failure
    else
      let properties ← readProperties
      let tag ← tagBytes handles properties.tag
      let anchor ← match properties.anchor with
        | some name => some <$> newAnchor name
        | none => pure none
      match ← peek with
      | some .blockEntry =>
        if indentless then return .sequence anchor tag (← readEntries handles true fuel [])
        else readBare properties anchor tag
      | some (.scalar plain text) =>
        advance
        return .scalar anchor (tag.filter (· != Bytes.ofString "!")) plain text
      | some .flowSequenceStart =>
        advance
        return .sequence anchor tag (← readFlowItems handles true fuel [])
      | some .flowMappingStart =>
        advance
        return .mapping anchor tag (← readFlowPairs handles true fuel [])
      | some .sequenceStart =>
        if block then
          advance
          return .sequence anchor tag (← readEntries handles false fuel [])
        else readBare properties anchor tag
      | some .mappingStart =>
        if block then
          advance
          return .mapping anchor tag (← readPairs handles fuel [])
        else readBare properties anchor tag
      | _ => readBare properties anchor tag
where
  /-- A node that consists of properties only. -/
  readBare (properties : Properties) (anchor : Option Nat) (tag : Option Bytes) : Reading Node :=
    if properties.anchor.isSome || tag.isSome then return .scalar anchor tag true "" else failure

/-- Reads a node unless one of some tokens comes next, which leaves it out. -/
def readUnless (handles : List (String × Bytes)) (block indentless : Bool) (ends : List Token) :
    Nat → Reading Node
  | 0 => failure
  | fuel + 1 => do
    if ← nextIsIn ends then return missing else read handles block indentless fuel

/-- Reads the items of a sequence in a block, those read so far in reverse. -/
def readEntries (handles : List (String × Bytes)) (indentless : Bool) :
    Nat → List Node → Reading (List Node)
  | 0, _ => failure
  | fuel + 1, items => do
    if ← accept .blockEntry then
      let ends := if indentless then [Token.blockEntry, .key, .value, .blockEnd]
        else [.blockEntry, .blockEnd]
      let item ← readUnless handles true false ends fuel
      readEntries handles indentless fuel (item :: items)
    else
      if !indentless then expect .blockEnd
      return items.reverse

/-- Reads the entries of a mapping in a block, those read so far in reverse. -/
def readPairs (handles : List (String × Bytes)) :
    Nat → List (Node × Node) → Reading (List (Node × Node))
  | 0, _ => failure
  | fuel + 1, entries => do
    if ← accept .key then
      let ends := [Token.key, .value, .blockEnd]
      let key ← readUnless handles true true ends fuel
      let value ← if ← accept .value then readUnless handles true true ends fuel else pure missing
      readPairs handles fuel ((key, value) :: entries)
    else
      expect .blockEnd
      return entries.reverse

/-- Reads the items of a flow sequence, those read so far in reverse. An item with a key is a
mapping of one entry. -/
def readFlowItems (handles : List (String × Bytes)) (first : Bool) :
    Nat → List Node → Reading (List Node)
  | 0, _ => failure
  | fuel + 1, items => do
    if ← accept .flowSequenceEnd then return items.reverse
    else
      if !first then expect .flowEntry
      if ← accept .key then
        let ends := [Token.value, .flowEntry, .flowSequenceEnd]
        let bare ← nextIsIn ends
        let key ← readUnless handles false false ends fuel
        if bare then advance
        let value ← if ← accept .value then
            readUnless handles false false [.flowEntry, .flowSequenceEnd] fuel
          else pure missing
        readFlowItems handles false fuel (.mapping none none [(key, value)] :: items)
      else if ← accept .flowSequenceEnd then return items.reverse
      else
        let item ← read handles false false fuel
        readFlowItems handles false fuel (item :: items)

/-- Reads the entries of a flow mapping, those read so far in reverse. -/
def readFlowPairs (handles : List (String × Bytes)) (first : Bool) :
    Nat → List (Node × Node) → Reading (List (Node × Node))
  | 0, _ => failure
  | fuel + 1, entries => do
    if ← accept .flowMappingEnd then return entries.reverse
    else
      if !first then expect .flowEntry
      if ← accept .key then
        let key ← readUnless handles false false [.value, .flowEntry, .flowMappingEnd] fuel
        let value ← if ← accept .value then
            readUnless handles false false [.flowEntry, .flowMappingEnd] fuel
          else pure missing
        readFlowPairs handles false fuel ((key, value) :: entries)
      else if ← accept .flowMappingEnd then return entries.reverse
      else
        let key ← read handles false false fuel
        readFlowPairs handles false fuel ((key, missing) :: entries)

end

/-- The handles that need no directive. -/
def commonHandles : List (String × Bytes) :=
  [("!", Bytes.ofString "!"), ("!!", Bytes.ofString "tag:yaml.org,2002:")]

/-- Reads directives: the version is given once at most, and so is each handle. -/
def readDirectives (version : Bool) (handles : List (String × Bytes)) :
    List Token → Option (List (String × Bytes) × List Token)
  | .version major minor :: rest =>
    if version || major != 1 || !(minor == 1 || minor == 2) then none
    else readDirectives true handles rest
  | .tagHandle handle lead :: rest =>
    if (handles.lookup handle).isSome then none
    else readDirectives version ((handle, lead) :: handles) rest
  | tokens => some (handles ++ commonHandles, tokens)

/-- Whether a document begins with a token of its own. -/
def isExplicit : List Token → Bool
  | .version .. :: _ => true
  | .tagHandle .. :: _ => true
  | .documentStart :: _ => true
  | _ => false

/-- Reads the content behind the start of a document, which may be left out. -/
def readContent (handles : List (String × Bytes)) (tokens : List Token) :
    Option (Node × List Token) :=
  if isExplicit tokens || tokens.isEmpty || tokens.head? == some .documentEnd then
    some (missing, tokens)
  else ((read handles true false (3 * tokens.length + 3)).run { tokens }).map
    fun (n, p) => (n, p.tokens)

/-- Reads the documents of a stream of tokens. Only the first one needs no start. -/
def readDocuments (first : Bool) : Nat → List Token → Option (List Node)
  | 0, _ => none
  | fuel + 1, tokens =>
    let tokens := if first then tokens else tokens.dropWhile (· == .documentEnd)
    if tokens.isEmpty then some []
    else do
      let (node, tokens) ←
        if first && !isExplicit tokens then
          ((read commonHandles true false (3 * tokens.length + 3)).run { tokens }).map
            fun (n, p) => (n, p.tokens)
        else do
          let (handles, tokens) ← readDirectives false [] tokens
          match tokens with
          | .documentStart :: rest => readContent handles rest
          | _ => none
      let tokens := if tokens.head? == some .documentEnd then tokens.tail else tokens
      let rest ← readDocuments false fuel tokens
      some (node :: rest)

/-- The documents that tokens spell. -/
def documents? (tokens : List Token) : Option (List Node) :=
  readDocuments true (tokens.length + 1) tokens

end Node
end CertAudit.Yaml
