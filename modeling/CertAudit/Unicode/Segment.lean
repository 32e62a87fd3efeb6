/- How Unicode 16.0 sorts characters where it cuts texts into graphemes, words and sentences. -/
import CertAudit.Unicode.Derived
import CertAudit.Unicode.Emoji
namespace CertAudit.Unicode

/-- The line feed. -/
def lineFeed : CharSet := CharSet.single 0xA

/-- The carriage return. -/
def carriageReturn : CharSet := CharSet.single 0xD

/-- The joiner of zero width. -/
def zeroWidthJoiner : CharSet := CharSet.single 0x200D

/-- Syllables of Hangul without a final consonant. -/
def hangulOpen : CharSet :=
  CharSet.ofRanges ((List.range 399).map fun i => (0xAC00 + 28 * i, 0xAC00 + 28 * i))

/-- Syllables of Hangul with a final consonant. -/
def hangulClosed : CharSet := (CharSet.range 0xAC00 0xD7A3).diff hangulOpen

/-- Marks that take room and begin a grapheme of their own. -/
def separateMarks : CharSet := CharSet.ofText <|
  "102B-102C 1038 1062-1064 1067-106D 1083 1087-108C 108F 109A-109C 1A61 1A63-1A64 AA7B " ++
    "AA7D 11720-11721"

/-- Code points that extend a grapheme. -/
def graphemeExtension : CharSet := graphemeExtend.union emojiModifier

/-- The classes of graphemes with their short and long names. -/
def graphemeClasses : List (String × String × CharSet) := [
  ("CN", "Control",
    (CharSet.unions [categoryZl, categoryZp, categoryCc, categoryCf,
      categoryCn.inter defaultIgnorable]).diff
      (CharSet.unions [lineFeed, carriageReturn, zeroWidthJoiner, prependedMark, graphemeExtend])),
  ("CR", "CR", carriageReturn),
  ("EX", "Extend", graphemeExtension),
  ("L", "L", CharSet.ofText "1100-115F A960-A97C"),
  ("LF", "LF", lineFeed),
  ("LV", "LV", hangulOpen),
  ("LVT", "LVT", hangulClosed),
  ("PP", "Prepend",
    prependedMark.union
      (CharSet.ofText "D4E 111C2-111C3 113D1 1193F 11941 11A84-11A89 11D46 11F02")),
  ("RI", "Regional_Indicator", regionalIndicator),
  ("SM", "SpacingMark",
    (categoryMc.diff (graphemeExtend.union separateMarks)).union (CharSet.ofText "E33 EB3")),
  ("T", "T", CharSet.ofText "11A8-11FF D7CB-D7FB"),
  ("V", "V", CharSet.ofText "1160-11A7 D7B0-D7C6 16D63 16D67-16D6A"),
  ("ZWJ", "ZWJ", zeroWidthJoiner)]

/-- Katakana, as they make up words. -/
def katakanaLetters : CharSet := CharSet.ofText <|
  "3031-3035 309B-309C 30A0-30FA 30FC-30FF 31F0-31FF 32D0-32FE 3300-3357 FF66-FF9D " ++
    "1AFF0-1AFF3 1AFF5-1AFFB 1AFFD-1AFFE 1B000 1B120-1B122 1B155 1B164-1B167"

/-- Letters of Hebrew. -/
def hebrewLetters : CharSet := CharSet.ofText
  "5D0-5EA 5EF-5F2 FB1D FB1F-FB28 FB2A-FB36 FB38-FB3C FB3E FB40-FB41 FB43-FB44 FB46-FB4F"

/-- Code points that extend a word and do not join. -/
def wordExtension : CharSet :=
  (graphemeExtension.union categoryMc).diff zeroWidthJoiner

/-- Letters of scripts that put no blanks between words. -/
def unspacedLetters : CharSet := CharSet.ofText <|
  "E01-E30 E32-E33 E40-E46 E81-E82 E84 E86-E8A E8C-EA3 EA5 EA7-EB0 EB2-EB3 EBD EC0-EC4 EC6 " ++
    "EDC-EDF 1000-102A 103F 1050-1055 105A-105D 1061 1065-1066 106E-1070 1075-1081 108E " ++
    "1780-17B3 17D7 17DC 1950-196D 1970-1974 1980-19AB 19B0-19C9 1A20-1A54 1AA7 3041-3096 " ++
    "309D-309F A9E0-A9E4 A9E6-A9EF A9FA-A9FE AA60-AA76 AA7A AA7E-AAAF AAB1 AAB5-AAB6 " ++
    "AAB9-AABD AAC0 AAC2 AADB-AADD 11700-1171A 11740-11746 1B001-1B11F 1B132 1B150-1B152"

/-- Signs that count as letters within words. -/
def letterSigns : CharSet := CharSet.ofText <|
  "B8 2C2-2C5 2D2-2D7 2DE-2DF 2E5-2EB 2ED 2EF-2FF 55A-55C 55E 58A 5F3 70F A708-A716 " ++
    "A720-A721 A789-A78A AB5B"

/-- Signs that count as digits within words. -/
def numberSigns : CharSet := CharSet.ofText "600-605 66B 6DD 890-891 8E2 19DA 110BD 110CD"

/-- Code points that make up numbers. -/
def numberCharacters : CharSet := categoryNd.union numberSigns

/-- The classes of words with their short and long names. -/
def wordClasses : List (String × String × CharSet) := [
  ("CR", "CR", carriageReturn),
  ("DQ", "Double_Quote", CharSet.ofText "22"),
  ("EX", "ExtendNumLet", CharSet.ofText "5F 202F 203F-2040 2054 FE33-FE34 FE4D-FE4F FF3F"),
  ("Extend", "Extend", wordExtension),
  ("FO", "Format",
    categoryCf.diff (CharSet.unions [zeroWidthJoiner, graphemeExtend, prependedMark,
      CharSet.single 0x200B])),
  ("HL", "Hebrew_Letter", hebrewLetters),
  ("KA", "Katakana", katakanaLetters),
  ("LE", "ALetter",
    (alphabetic.diff (CharSet.unions [ideographic, katakanaLetters, wordExtension, hebrewLetters,
      unspacedLetters])).union letterSigns),
  ("LF", "LF", lineFeed),
  ("MB", "MidNumLet", CharSet.ofText "2E 2018-2019 2024 FE52 FF07 FF0E"),
  ("ML", "MidLetter", CharSet.ofText "3A B7 387 55F 5F4 2027 FE13 FE55 FF1A"),
  ("MN", "MidNum", CharSet.ofText "2C 3B 37E 589 60C-60D 66C 7F8 2044 FE50 FE54 FF0C FF1B"),
  ("NL", "Newline", CharSet.ofText "B-C 85 2028-2029"),
  ("NU", "Numeric", numberCharacters),
  ("RI", "Regional_Indicator", regionalIndicator),
  ("SQ", "Single_Quote", CharSet.ofText "27"),
  ("WSegSpace", "WSegSpace", CharSet.ofText "20 1680 2000-2006 2008-200A 205F 3000"),
  ("ZWJ", "ZWJ", zeroWidthJoiner)]

/-- Code points that extend a sentence. -/
def sentenceExtension : CharSet :=
  CharSet.unions [graphemeExtend, categoryMc, zeroWidthJoiner]

/-- Letters of Georgian that have an uppercase form but are not counted as lowercase. -/
def georgianLetters : CharSet := CharSet.ofText "10D0-10FA 10FD-10FF"

/-- Uppercase letters of Georgian, which do not begin sentences. -/
def georgianCapitals : CharSet := CharSet.ofText "1C90-1CBA 1CBD-1CBF"

/-- Lowercase letters of sentences. -/
def sentenceLower : CharSet := lowercase.diff (graphemeExtend.union georgianLetters)

/-- Uppercase letters of sentences. -/
def sentenceUpper : CharSet := (uppercase.union categoryLt).diff georgianCapitals

/-- Signs that may or may not end a sentence. -/
def fullStops : CharSet := CharSet.ofText "2E 2024 FE52 FF0E"

/-- Signs that separate paragraphs. -/
def paragraphBreaks : CharSet := CharSet.ofText "85 2028-2029"

/-- The classes of sentences with their short and long names. -/
def sentenceClasses : List (String × String × CharSet) := [
  ("AT", "ATerm", fullStops),
  ("CL", "Close",
    (CharSet.unions [categoryPs, categoryPe, categoryPi, categoryPf, quotationMark,
      CharSet.ofText "275B-2760 2E00-2E01 2E06-2E08 2E0B 1F676-1F678"]).diff
      (CharSet.ofText "FF02 FF07")),
  ("CR", "CR", carriageReturn),
  ("EX", "Extend", sentenceExtension),
  ("FO", "Format", categoryCf.diff (CharSet.unions [sentenceExtension, numberCharacters])),
  ("LE", "OLetter",
    (alphabetic.diff (CharSet.unions [sentenceLower, sentenceUpper, sentenceExtension])).union
      (CharSet.single 0x5F3)),
  ("LF", "LF", lineFeed),
  ("LO", "Lower", sentenceLower),
  ("NU", "Numeric", numberCharacters.union (CharSet.single 0x66C)),
  ("SC", "SContinue",
    CharSet.ofText <|
      "2C-2D 3A-3B 37E 55D 60C-60D 7F8 1802 1808 2013-2014 3001 FE10-FE11 FE13-FE14 " ++
        "FE31-FE32 FE50-FE51 FE54-FE55 FE58 FE63 FF0C-FF0D FF1A-FF1B FF64"),
  ("SE", "Sep", paragraphBreaks),
  ("SP", "Sp",
    whiteSpace.diff (CharSet.unions [lineFeed, carriageReturn, paragraphBreaks])),
  ("ST", "STerm", sentenceTerminal.diff fullStops),
  ("UP", "Upper", sentenceUpper)]

end CertAudit.Unicode
