/- Properties of Unicode 16.0 that follow from categories and from other properties. -/
import CertAudit.Unicode.Category
import CertAudit.Unicode.Property
namespace CertAudit.Unicode

/-- The code points whose category has a short name with this initial. -/
def categoryGroup (initial : Char) : CharSet :=
  CharSet.unions
    ((categories.filter fun e => e.1.toList.head? == some initial).map (·.2.2))

/-- Letters of any kind. -/
def letters : CharSet := categoryGroup 'L'

/-- Marks of any kind. -/
def marks : CharSet := categoryGroup 'M'

/-- Code points that count as lowercase. -/
def lowercase : CharSet := categoryLl.union otherLowercase

/-- Code points that count as uppercase. -/
def uppercase : CharSet := categoryLu.union otherUppercase

/-- Code points with a case. -/
def cased : CharSet := CharSet.unions [lowercase, uppercase, categoryLt]

/-- Letters with a case. -/
def casedLetter : CharSet := CharSet.unions [categoryLu, categoryLl, categoryLt]

/-- Code points that are alphabetic. -/
def alphabetic : CharSet :=
  CharSet.unions [cased, letters, categoryNl, otherAlphabetic]

/-- Punctuation that stands within words. -/
def wordPunctuation : CharSet :=
  CharSet.ofText "27 2E 3A B7 387 55F 5F4 2018-2019 2024 2027 FE13 FE52 FE55 FF07 FF0E FF1A"

/-- Code points that are passed over where the case of a word is judged. -/
def caseIgnorable : CharSet :=
  CharSet.unions [categoryMn, categoryMe, categoryCf, categoryLm, categorySk, wordPunctuation]

/-- Code points used in mathematics. -/
def mathematical : CharSet := categorySm.union otherMath

/-- Code points that extend the grapheme before them. -/
def graphemeExtend : CharSet := CharSet.unions [categoryMe, categoryMn, otherGraphemeExtend]

/-- Code points that begin graphemes. -/
def graphemeBase : CharSet :=
  (CharSet.unions [categoryCc, categoryCf, categoryCo, categoryCn, categoryZl, categoryZp,
    graphemeExtend]).complement

/-- Formats that are displayed. -/
def displayedFormat : CharSet :=
  prependedMark.union (CharSet.ofText "FFF9-FFFB 13430-1343F")

/-- Code points that may be left undisplayed. -/
def defaultIgnorable : CharSet :=
  (CharSet.unions [categoryCf, variationSelector, otherDefaultIgnorable]).diff displayedFormat

/-- Code points kept for patterns. -/
def patternCharacters : CharSet := patternSyntax.union patternWhiteSpace

/-- Code points that may begin identifiers. -/
def idStart : CharSet :=
  (CharSet.unions [letters, categoryNl, otherIdStart]).diff patternCharacters

/-- Code points that may stand in identifiers. -/
def idContinue : CharSet :=
  (CharSet.unions [idStart, categoryMn, categoryMc, categoryNd, categoryPc, otherIdContinue]).diff
    patternCharacters

/-- Code points whose normal forms cannot stand in identifiers. -/
def normallyOutside : CharSet :=
  CharSet.ofText "37A 309B-309C FC5E-FC63 FDFA-FDFB FE70 FE72 FE74 FE76 FE78 FE7A FE7C FE7E"

/-- Code points that may stand in identifiers, in normal forms as well. -/
def xidContinue : CharSet := idContinue.diff normallyOutside

/-- Code points that may begin identifiers, in normal forms as well. -/
def xidStart : CharSet :=
  idStart.diff (normallyOutside.union (CharSet.ofText "E33 EB3 FF9E-FF9F"))

/-- Uppercase code points without a lowercase form. -/
def fixedUppercase : CharSet := CharSet.ofText <|
  "3D2-3D4 2102 2107 210B-210D 2110-2112 2115 2119-211D 2124 2128 212C-212D 2130-2131 2133 " ++
    "213E-213F 2145 1D400-1D419 1D434-1D44D 1D468-1D481 1D49C 1D49E-1D49F 1D4A2 1D4A5-1D4A6 " ++
    "1D4A9-1D4AC 1D4AE-1D4B5 1D4D0-1D4E9 1D504-1D505 1D507-1D50A 1D50D-1D514 1D516-1D51C " ++
    "1D538-1D539 1D53B-1D53E 1D540-1D544 1D546 1D54A-1D550 1D56C-1D585 1D5A0-1D5B9 " ++
    "1D5D4-1D5ED 1D608-1D621 1D63C-1D655 1D670-1D689 1D6A8-1D6C0 1D6E2-1D6FA 1D71C-1D734 " ++
    "1D756-1D76E 1D790-1D7A8 1D7CA 1F130-1F149 1F150-1F169 1F170-1F189"

/-- Code points that become others in lowercase. -/
def changesWhenLowercased : CharSet := (uppercase.union categoryLt).diff fixedUppercase

/-- Lowercase and titlecase code points without an uppercase form of their own. -/
def fixedLowercase : CharSet := CharSet.ofText <|
  "AA BA 138 18D 1AA-1AB 1BA 1BE 221 234-239 255 258 25A 25D-25F 262 267 26D-26E 270 " ++
    "273-274 276-27C 27E-27F 281 284-286 28D-291 293 295-29C 29F-2B8 2C0-2C1 2E0-2E4 37A 3FC " ++
    "560 588 10FC 1D00-1D78 1D7A-1D7C 1D7E-1D8D 1D8F-1DBF 1E9C-1E9D 1E9F 2071 207F 2090-209C " ++
    "210A 210E-210F 2113 212F 2134 2139 213C-213D 2146-2149 2C71 2C74 2C77-2C7D 2CE4 " ++
    "A69C-A69D A730-A731 A770-A778 A78E A795 A7AF A7D3 A7D5 A7F2-A7F4 A7F8-A7FA AB30-AB52 " ++
    "AB54-AB5A AB5C-AB69 10780 10783-10785 10787-107B0 107B2-107BA 1D41A-1D433 1D44E-1D454 " ++
    "1D456-1D467 1D482-1D49B 1D4B6-1D4B9 1D4BB 1D4BD-1D4C3 1D4C5-1D4CF 1D4EA-1D503 " ++
    "1D51E-1D537 1D552-1D56B 1D586-1D59F 1D5BA-1D5D3 1D5EE-1D607 1D622-1D63B 1D656-1D66F " ++
    "1D68A-1D6A5 1D6C2-1D6DA 1D6DC-1D6E1 1D6FC-1D714 1D716-1D71B 1D736-1D74E 1D750-1D755 " ++
    "1D770-1D788 1D78A-1D78F 1D7AA-1D7C2 1D7C4-1D7C9 1D7CB 1DF00-1DF09 1DF0B-1DF1E " ++
    "1DF25-1DF2A 1E030-1E06D"

/-- Code points that become others in uppercase. -/
def changesWhenUppercased : CharSet := (lowercase.union categoryLt).diff fixedLowercase

/-- Code points that become others in uppercase but not in titlecase. -/
def titlecaseKept : CharSet := CharSet.ofText
  "1C5 1C8 1CB 1F2 10D0-10FA 10FD-10FF 1F88-1F8F 1F98-1F9F 1FA8-1FAF 1FBC 1FCC 1FFC"

/-- Uppercase code points that become others in titlecase. -/
def titlecaseOnly : CharSet := CharSet.ofText "1C4 1C7 1CA 1F1"

/-- Code points that become others in titlecase. -/
def changesWhenTitlecased : CharSet :=
  (changesWhenUppercased.diff titlecaseKept).union titlecaseOnly

/-- Code points that become others in lowercase but not where case is folded. -/
def foldedKept : CharSet := CharSet.ofText "13A0-13F5"

/-- Code points that become others where case is folded but not in lowercase. -/
def foldedOnly : CharSet := CharSet.ofText <|
  "B5 DF 149 17F 345 3C2 3D0-3D1 3D5-3D6 3F0-3F1 3F5 587 13F8-13FD 1C80-1C88 1E9A-1E9B " ++
    "1F80-1F87 1F90-1F97 1FA0-1FA7 1FB2-1FB4 1FB7 1FC2-1FC4 1FC7 1FF2-1FF4 1FF7 AB70-ABBF " ++
    "FB00-FB06 FB13-FB17"

/-- Code points that become others where case is folded. -/
def changesWhenCasefolded : CharSet :=
  (changesWhenLowercased.diff foldedKept).union foldedOnly

/-- Code points that become others in some case. -/
def changesWhenCasemapped : CharSet :=
  CharSet.unions [changesWhenLowercased, changesWhenUppercased, changesWhenTitlecased]

end CertAudit.Unicode
