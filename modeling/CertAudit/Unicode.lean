/- Character classes of Unicode that texts of the program depend on. They know version 17.0, while
patterns know version 16.0. -/
import CertAudit.Unicode.Derived
namespace CertAudit.Unicode

/-- Code points that 17.0 assigns; each is shown by a glyph. -/
def newCharacters : CharSet := CharSet.ofText <|
  "88F C5C CDC 1ACF-1ADD 1AE0-1AEB 20C1 2B96 A7CE-A7CF A7D2 A7D4 A7F1 FBC3-FBD2 FD90-FD91 " ++
    "FDC8-FDCE 10940-10959 10EC5-10EC7 10ED0-10ED8 10EFA-10EFB 11B60-11B67 11DB0-11DDB " ++
    "11DE0-11DE9 16EA0-16EB8 16EBB-16ED3 16FF2-16FF6 187F8-187FF 18D09-18D1E 18D80-18DF2 " ++
    "1CCFA-1CCFC 1CEBA-1CED0 1CEE0-1CEF0 1E6C0-1E6DE 1E6E0-1E6F5 1E6FE-1E6FF 1F6D8 " ++
    "1F777-1F77A 1F8D0-1F8D8 1FA54-1FA57 1FA8A 1FA8E 1FAC8 1FACD 1FAEA 1FAEF 1FBFA " ++
    "2B73A-2B73F 2CEA2-2CEAD 323B0-33479"

/-- New code points that are alphabetic. -/
def newAlphabetic : CharSet := CharSet.ofText <|
  "88F C5C CDC A7CE-A7CF A7D2 A7D4 A7F1 10940-10959 10EC5-10EC7 10EFA-10EFB 11B60-11B67 " ++
    "11DB0-11DDB 16EA0-16EB8 16EBB-16ED3 16FF2-16FF6 187F8-187FF 18D09-18D1E 18D80-18DF2 " ++
    "1E6C0-1E6DE 1E6E0-1E6F5 1E6FE-1E6FF 2B73A-2B73F 2CEA2-2CEAD 323B0-33479"

/-- New code points that stand for numbers. -/
def newNumeric : CharSet := CharSet.ofText "11DE0-11DE9 16FF4-16FF6"

/-- New code points that extend graphemes. -/
def newGraphemeExtend : CharSet := CharSet.ofText
  "1ACF-1ADD 1AE0-1AEB 10EFA-10EFB 11B60 11B62-11B64 11B66 1E6E3 1E6E6 1E6EE-1E6EF 1E6F5"

/-- Whether a character is white space. -/
def isWhiteSpace (c : Char) : Bool := whiteSpace.contains c.toNat

/-- Code points that stand for numbers. -/
def numeric : CharSet := CharSet.unions [categoryNd, categoryNl, categoryNo, newNumeric]

/-- Whether a character stands for a number. -/
def isNumeric (c : Char) : Bool := numeric.contains c.toNat

/-- Whether a character is alphabetic. -/
def isAlphabetic (c : Char) : Bool :=
  alphabetic.contains c.toNat || newAlphabetic.contains c.toNat

/-- Whether a character extends the grapheme before it. -/
def extendsGrapheme (c : Char) : Bool :=
  graphemeExtend.contains c.toNat || newGraphemeExtend.contains c.toNat

/-- Code points that no glyph stands for: controls, formats, private and unassigned points, and
separators. -/
def invisible : CharSet :=
  (CharSet.unions [categoryCc, categoryCf, categoryCo, categoryCn, categoryZl, categoryZp,
    categoryZs]).diff newCharacters

/-- Whether a glyph or the plain space stands for a character. -/
def isPrintable (c : Char) : Bool := c == ' ' || !invisible.contains c.toNat

/-- Drops white space at both ends. -/
def trim (s : String) : String :=
  String.ofList ((s.toList.dropWhile isWhiteSpace).reverse.dropWhile isWhiteSpace).reverse

/-- Drops white space at the end. -/
def trimEnd (cs : List Char) : List Char := (cs.reverse.dropWhile isWhiteSpace).reverse

end CertAudit.Unicode
