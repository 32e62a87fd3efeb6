/- Elements of the basic rules whose content is checked against their tags, down to a depth of
nesting, and the numbers they hold. -/
import CertAudit.Der.Integer
import CertAudit.Der.Time
namespace CertAudit.Der

/-- Whether a byte is a digit or a blank of ASCII. -/
def isNumericByte (b : UInt8) : Bool := (48 ≤ b && b ≤ 57) || b == 32

/-- Whether a byte is one of the printable characters of ASN.1. -/
def isPrintableByte (b : UInt8) : Bool :=
  (48 ≤ b && b ≤ 57) || (65 ≤ b && b ≤ 90) || (97 ≤ b && b ≤ 122) ||
    (" '()+,-./:=?".toList.any fun c => c.toNat == b.toNat)

/-- Whether the content of a primitive element of the universal class has the form its tag asks
for. Tags that nothing is known of ask for nothing. -/
def fitsTag (tag : Nat) (content : Bytes) : Bool :=
  if tag = Tag.endOfContent ∨ tag = Tag.null then content.isEmpty
  else if tag = Tag.boolean then content.length == 1
  else if tag = Tag.bitString ∨ tag = Tag.oid ∨ tag = Tag.relativeOid then !content.isEmpty
  else if tag = Tag.enumerated then Bytes.toNat content < UInt64.size
  else if tag = Tag.utf8String then (Bytes.toString? content).isSome
  else if tag = Tag.numericString then content.all isNumericByte
  else if tag = Tag.printableString then content.all isPrintableByte
  else if tag = Tag.ia5String then content.all fun b => b.toNat < 128
  else if tag = Tag.visibleString then content.all isVisible
  else if tag = Tag.utcTime then isUtcTime content
  else if tag = Tag.generalizedTime then isGeneralizedTime content
  else true

/-- Whether elements of a tag may have a content of elements. Those of strings are not read. -/
def mayNest (tag : Nat) : Bool :=
  tag = Tag.endOfContent || tag = Tag.boolean || tag = Tag.integer

/-- Whether the content of elements of a tag is looked at. -/
def isKnownTag (tag : Nat) : Bool :=
  tag ≤ Tag.oid || tag = Tag.enumerated || tag = Tag.utf8String || tag = Tag.relativeOid ||
    (Tag.numericString ≤ tag && tag ≤ Tag.bmpString && tag ≠ Tag.characterString)

/-- Reads one element by the basic rules, and the bytes behind it, with all elements in it down to
a depth checked. The content of elements outside the universal class is not looked at. -/
def readChecked : Nat → Bytes → Option (Element × Bytes)
  | 0, _ => none
  | depth + 1, bs => do
    let (h, body) ← readOpenHeader bs
    let (e, rest) ← readBody (depth + 1) h body
    if h.tagClass ≠ .universal then some (e, rest)
    else if h.tag = Tag.sequence ∨ h.tag = Tag.set then
      if h.constructed then (readAll (readChecked depth) e.content).map fun _ => (e, rest)
      else none
    else if !isKnownTag h.tag then some (e, rest)
    else if h.length.isNone || (h.constructed && !mayNest h.tag) then none
    else if fitsTag h.tag e.content then some (e, rest)
    else none

/-- The elements of a sequence of the distinguished rules, checked. -/
def readElements (bs : Bytes) : Option (List Element × Bytes) := do
  let (e, rest) ← readTagged Tag.sequence bs
  if e.constructed then (readAll (readChecked (maxDepth - 1)) e.content).map (·, rest) else none

/-- The number in the bits of a bit string of at most 64 bits. -/
def bitsValue? (content : Bytes) : Option Nat :=
  match content with
  | [] => none
  | unused :: data =>
    if 8 * data.length < unused.toNat then none
    else
      let size := 8 * data.length - unused.toNat
      if size > 64 then none
      else some (Bytes.toNat (data.take ((size + 7) / 8)) >>> (unused.toNat % 8))

/-- The number an element holds, if it is an integer without a sign, a bit string or an
enumerated value of at most 64 bits. -/
def Element.number? (e : Element) : Option Nat := do
  if e.tagClass ≠ .universal then none
  let n ← if e.tag = Tag.bitString then bitsValue? e.content
    else if e.tag = Tag.enumerated then some (Bytes.toNat e.content)
    else if e.tag = Tag.integer ∧ 0 ≤ signedValue e.content then some (Bytes.toNat e.content)
    else none
  if n < UInt64.size then some n else none

/-- The truth value an element holds. -/
def Element.flag? (e : Element) : Option Bool :=
  if e.tagClass = .universal ∧ e.tag = Tag.boolean then e.content.head?.map (· != 0) else none

/-- The integer an element holds. -/
def Element.integer? (e : Element) : Option Int :=
  if e.tagClass = .universal ∧ e.tag = Tag.integer then some (signedValue e.content) else none

end CertAudit.Der
