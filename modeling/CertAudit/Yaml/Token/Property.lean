/- Reading anchors, tags and directives of YAML texts. -/
import CertAudit.Bytes
import CertAudit.Text.Hex
import CertAudit.Yaml.Cursor
import CertAudit.Yaml.Token
namespace CertAudit.Yaml

namespace AnchorName

/-- What may follow a name. -/
def endsName (c : Char) : Bool :=
  isBlankOrBreak c || ['?', ':', ',', ']', '\x7d', '%', '@'].contains c || c.toNat == 0x60

/-- Reads the name behind the sign of an anchor or an alias. -/
def read (c : Cursor) : Option (String × Cursor) :=
  let (name, c) := (c.skip 1).takeWhile isWord
  if name.isEmpty || !(c.atEnd || c.sees endsName) then none else some (String.ofList name, c)

end AnchorName

namespace TagName

/-- Characters of tags, with commas and brackets where angle brackets stand around them. -/
def isUri (verbatim : Bool) (c : Char) : Bool :=
  isWord c || ";/?:@&=+$.%!~*'()".toList.contains c || (verbatim && [',', '[', ']'].contains c)

/-- The number of bytes of a character whose first byte is given. -/
def width? (lead : UInt8) : Option Nat :=
  let n := lead.toNat
  if n < 0x80 then some 1
  else if n / 32 = 6 then some 2
  else if n / 16 = 14 then some 3
  else if n / 8 = 30 then some 4
  else none

/-- Replaces each percent sign and its two digits by a byte. The bytes of a character are all
spelled so; `left` of them are still to come. -/
def decode? : Nat → List Char → Option Bytes
  | left, [] => if left = 0 then some [] else none
  | left, '%' :: a :: b :: rest => do
    let high ← Hex.digitValue? a
    let low ← Hex.digitValue? b
    let octet := UInt8.ofNat (high * 16 + low)
    let left ←
      if left = 0 then (width? octet).map (· - 1)
      else if octet.toNat / 64 = 2 then some (left - 1)
      else none
    (decode? left rest).map (octet :: ·)
  | left, c :: rest =>
    if c == '%' || left ≠ 0 then none else (decode? 0 rest).map (UInt8.ofNat c.toNat :: ·)

/-- Reads a part of a tag; it may be empty. A zero byte ends it. -/
def readUri (verbatim : Bool) (c : Cursor) : Option (Bytes × Cursor) := do
  let (cs, c) := c.takeWhile (isUri verbatim)
  let bytes ← decode? 0 cs
  some (bytes.takeWhile (· != 0), c)

/-- Reads a part of a tag that has a character at least. -/
def readSomeUri (verbatim : Bool) (c : Cursor) : Option (Bytes × Cursor) :=
  if c.sees (isUri verbatim) then readUri verbatim c else none

/-- Reads a handle: an exclamation mark, perhaps a name, and perhaps another one. -/
def readHandle (c : Cursor) : Option (List Char × Cursor) :=
  if !c.seesChar '!' then none
  else
    let (name, c) := (c.skip 1).takeWhile isWord
    if c.seesChar '!' then some ('!' :: (name ++ ['!']), c.skip 1) else some ('!' :: name, c)

/-- Whether a handle ends with an exclamation mark of its own. -/
def isClosed (handle : List Char) : Bool := handle.length ≥ 2 && handle.getLast? == some '!'

/-- Reads a tag within angle brackets. -/
def readVerbatim (c : Cursor) : Option ((String × Bytes) × Cursor) := do
  let (text, c) ← readSomeUri true (c.skip 2)
  if !c.seesChar '>' then none else some (("", text), c.skip 1)

/-- Reads a tag of a handle and a suffix, or with a suffix only. A mark alone is a tag of its
own. -/
def readShort (c : Cursor) : Option ((String × Bytes) × Cursor) := do
  let (handle, c) ← readHandle c
  if isClosed handle then
    let (suffix, c) ← readSomeUri false c
    some ((String.ofList handle, suffix), c)
  else
    let (more, c) ← readUri false c
    let suffix := Bytes.ofString (String.ofList (handle.drop 1)) ++ more
    some (if suffix = [] then ("", Bytes.ofString "!") else ("!", suffix), c)

/-- Reads a tag, which a blank follows, or a comma in a flow collection. -/
def read (flow : Bool) (c : Cursor) : Option ((String × Bytes) × Cursor) := do
  let (tag, c) ← if (c.skip 1).seesChar '<' then readVerbatim c else readShort c
  if c.atEnd || c.sees isBlankOrBreak || (flow && c.seesChar ',') then some (tag, c) else none

end TagName

namespace Directive

/-- Reads a number of at most nine digits. -/
def readNumber (c : Cursor) : Option (Nat × Cursor) :=
  let (ds, c) := c.takeWhile Char.isDigit
  if ds.isEmpty || ds.length > 9 then none
  else some (ds.foldl (fun n d => n * 10 + (d.toNat - 48)) 0, c)

/-- Reads the number of a version. -/
def readVersion (c : Cursor) : Option (Token × Cursor) := do
  let (major, c) ← readNumber (c.skipWhile isBlank)
  if !c.seesChar '.' then none
  else
    let (minor, c) ← readNumber (c.skip 1)
    some (.version major minor, c)

/-- Reads a handle and what it stands for. -/
def readHandle (c : Cursor) : Option (Token × Cursor) := do
  let (handle, c) ← TagName.readHandle (c.skipWhile isBlank)
  if !(TagName.isClosed handle || handle == ['!']) || !c.sees isBlank then none
  else
    let (lead, c) ← TagName.readSomeUri true (c.skipWhile isBlank)
    if !(c.atEnd || c.sees isBlankOrBreak) then none
    else some (.tagHandle (String.ofList handle) lead, c)

/-- Reads a directive from its sign to the end of the line. -/
def read (c : Cursor) : Option (Token × Cursor) := do
  let (name, c) := (c.skip 1).takeWhile isWord
  if !(c.atEnd || c.sees isBlankOrBreak) then none
  else
    let (token, c) ← match String.ofList name with
      | "YAML" => readVersion c
      | "TAG" => readHandle c
      | _ => none
    let c ← c.endLine?
    some (token, c)

end Directive
end CertAudit.Yaml
