/- Elements of ASN.1 encodings: identifier, length and content. The distinguished rules want a
definite length; the basic rules also take content that an end marker closes. -/
import CertAudit.Bytes
namespace CertAudit.Der

/-- The class of a tag. -/
inductive TagClass
  | universal
  | application
  | context
  | priv
deriving Repr, DecidableEq

/-- What comes before the content of an element; no length means that an end marker closes it. -/
structure Header where
  tagClass : TagClass
  constructed : Bool
  tag : Nat
  length : Option Nat
deriving Repr, DecidableEq

/-- An element with its content. -/
structure Element where
  tagClass : TagClass
  constructed : Bool
  tag : Nat
  content : Bytes
deriving Repr, DecidableEq

namespace Tag

def endOfContent : Nat := 0
def boolean : Nat := 1
def integer : Nat := 2
def bitString : Nat := 3
def octetString : Nat := 4
def null : Nat := 5
def oid : Nat := 6
def enumerated : Nat := 10
def utf8String : Nat := 12
def relativeOid : Nat := 13
def sequence : Nat := 16
def set : Nat := 17
def numericString : Nat := 18
def printableString : Nat := 19
def ia5String : Nat := 22
def utcTime : Nat := 23
def generalizedTime : Nat := 24
def visibleString : Nat := 26
def characterString : Nat := 29
def bmpString : Nat := 30

end Tag

/-- The class in the two high bits of an identifier. -/
def classOf (b : UInt8) : TagClass :=
  match b.toNat / 64 with
  | 0 => .universal
  | 1 => .application
  | 2 => .context
  | _ => .priv

/-- The number of a tag of several bytes, at most five, seven bits a byte; it wraps at 32 bits. -/
def readLongTag : Nat → Nat → Bytes → Option (Nat × Bytes)
  | _, _, [] => none
  | 0, _, _ => none
  | left + 1, n, b :: rest =>
    let n := (n * 128 + b.toNat % 128) % UInt32.size
    if b.toNat < 128 then some (n, rest) else readLongTag left n rest

/-- The class, the form and the number of a tag. -/
def readTag : Bytes → Option ((TagClass × Bool × Nat) × Bytes)
  | [] => none
  | b :: rest =>
    let constructed := b.toNat / 32 % 2 == 1
    if b.toNat % 32 = 31 then
      (readLongTag 5 0 rest).map fun (n, rest) => ((classOf b, constructed, n), rest)
    else some ((classOf b, constructed, b.toNat % 32), rest)

/-- Takes a number of bytes off the front. -/
def take? (n : Nat) (bs : Bytes) : Option (Bytes × Bytes) :=
  let front := bs.take n
  if front.length = n then some (front, bs.drop n) else none

/-- A length: below 128 in one byte, else in as many bytes as the first one says. -/
def readLength : Bytes → Option (Option Nat × Bytes)
  | [] => none
  | b :: rest =>
    let n := b.toNat
    if n < 128 then some (some n, rest)
    else if n = 128 then some (none, rest)
    else if n = 255 then none
    else do
      let (ds, rest) ← take? (n - 128) rest
      let length := Bytes.toNat ds
      if length < UInt64.size then some (some length, rest) else none

/-- A header by the basic rules: only constructed elements may leave their length open. -/
def readOpenHeader (bs : Bytes) : Option (Header × Bytes) := do
  let ((tagClass, constructed, tag), rest) ← readTag bs
  let (length, rest) ← readLength rest
  if length.isNone && !constructed then none
  else some ({ tagClass, constructed, tag, length }, rest)

/-- A header by the distinguished rules, with the length it declares. -/
def readHeader (bs : Bytes) : Option (Header × Nat × Bytes) := do
  let (h, rest) ← readOpenHeader bs
  let length ← h.length
  some (h, length, rest)

/-- Reads one element by the distinguished rules, and the bytes behind it. -/
def read (bs : Bytes) : Option (Element × Bytes) := do
  let (h, length, rest) ← readHeader bs
  let (content, rest) ← take? length rest
  some (⟨h.tagClass, h.constructed, h.tag, content⟩, rest)

/-- Skips elements one by one until an end marker has been skipped. -/
def skipToEnd (skip : Header → Bytes → Option (Bool × Bytes)) (bs : Bytes) : Option Bytes :=
  match readOpenHeader bs with
  | none => none
  | some (h, rest) =>
    match skip h rest with
    | none => none
    | some (true, rest) => some rest
    | some (false, rest) => if rest.length < bs.length then skipToEnd skip rest else none
termination_by bs.length

/-- Skips the content of an element by the basic rules, down to a depth of nesting, and tells
whether the element was an end marker. -/
def skipContent : Nat → Header → Bytes → Option (Bool × Bytes)
  | 0, _, _ => none
  | depth + 1, h, bs =>
    match h.length with
    | some n =>
      if n = 0 ∧ h.tag = Tag.endOfContent then some (true, bs)
      else (take? n bs).map fun (_, rest) => (false, rest)
    | none => (skipToEnd (skipContent depth) bs).map fun rest => (false, rest)

/-- The depth of nesting at which readers of unknown content give up. -/
def maxDepth : Nat := 50

/-- Takes the content of an element by the basic rules, down to a depth of nesting, and the bytes
behind it. -/
def readBody (depth : Nat) (h : Header) (body : Bytes) : Option (Element × Bytes) := do
  let (_, rest) ← skipContent depth h body
  let whole := body.take (body.length - rest.length)
  let content := if h.length.isNone then whole.take (whole.length - 2) else whole
  some (⟨h.tagClass, h.constructed, h.tag, content⟩, rest)

/-- Reads one element by the basic rules, and the bytes behind it. -/
def readOpen (bs : Bytes) : Option (Element × Bytes) := do
  let (h, body) ← readOpenHeader bs
  readBody maxDepth h body

/-- Reads an element with a given tag number. -/
def readTagged (tag : Nat) (bs : Bytes) : Option (Element × Bytes) := do
  let (e, rest) ← read bs
  if e.tag = tag then some (e, rest) else none

/-- The content of an element with a given tag number, and the bytes behind it. -/
def readContent (tag : Nat) (bs : Bytes) : Option (Bytes × Bytes) :=
  (readTagged tag bs).map fun (e, rest) => (e.content, rest)

/-- An element with a context tag, if one comes next. Only a malformed element is an error. -/
def readOptional (tag : Nat) (bs : Bytes) : Option (Option Element × Bytes) :=
  if bs.isEmpty then some (none, bs)
  else do
    let (e, rest) ← read bs
    if e.tagClass = .context ∧ e.tag = tag then some (some e, rest) else some (none, bs)

/-- Reads items until one fails or the bytes end, and the bytes from there on. -/
def readMany {α : Type} (item : Bytes → Option (α × Bytes)) (bs : Bytes) : List α × Bytes :=
  match item bs with
  | none => ([], bs)
  | some (x, rest) =>
    if rest.length < bs.length then
      let (xs, rest) := readMany item rest
      (x :: xs, rest)
    else ([], bs)
termination_by bs.length

/-- Reads items up to the end of the bytes. -/
def readAll {α : Type} (item : Bytes → Option (α × Bytes)) (bs : Bytes) : Option (List α) :=
  match readMany item bs with
  | (xs, []) => some xs
  | _ => none

/-- Reads a sequence all of whose elements are items of one kind. -/
def readSequenceOf {α : Type} (item : Bytes → Option (α × Bytes)) (bs : Bytes) :
    Option (List α × Bytes) := do
  let (content, rest) ← readContent Tag.sequence bs
  let xs ← readAll item content
  some (xs, rest)

end CertAudit.Der
