/- Kinds of characters in YAML texts. -/
namespace CertAudit.Yaml

/-- Line breaks. -/
def isBreak (c : Char) : Bool :=
  c == '\n' || c == '\r' || c.toNat == 0x85 || c.toNat == 0x2028 || c.toNat == 0x2029

/-- Blanks within a line. -/
def isBlank (c : Char) : Bool := c == ' ' || c == '\t'

/-- Blanks, line breaks and the zero character. -/
def isBlankOrBreak (c : Char) : Bool := isBlank c || isBreak c || c.toNat == 0

/-- Whether the end, a blank or a line break follows. -/
def blankFollows : List Char → Bool
  | [] => true
  | c :: _ => isBlankOrBreak c

/-- Characters of names. -/
def isWord (c : Char) : Bool := c.isAlphanum || c == '_' || c == '-'

/-- Characters that a text may hold. -/
def isAllowed (c : Char) : Bool :=
  let n := c.toNat
  n == 9 || n == 10 || n == 13 || (0x20 ≤ n && n ≤ 0x7e) || n == 0x85 ||
    (0xa0 ≤ n && n != 0xfffe && n != 0xffff)

/-- The mark that a line may begin with. -/
def byteOrderMark : Char := Char.ofNat 0xfeff

end CertAudit.Yaml
