/- Looking up sets of characters by the names of properties. Case, blanks, hyphens and underscores
in names do not count, nor does `is` at the very start. -/
import CertAudit.Unicode.Age
import CertAudit.Unicode.Script
import CertAudit.Unicode.ScriptExtension
import CertAudit.Unicode.CaseFold
import CertAudit.Unicode.Segment
namespace CertAudit.Unicode

/-- A name without its case and without the signs that do not count. -/
def condensed (cs : List Char) : List Char :=
  ((cs.filter fun c => c.toNat < 128).map Char.toLower).filter fun c =>
    !(c == ' ' || c == '-' || c == '_')

/-- The form of a name that look-ups compare. -/
def plainName (s : String) : String :=
  match s.toList with
  | a :: b :: rest =>
    if a.toLower == 'i' && b.toLower == 's' then
      let name := condensed rest
      if name == ['c'] then "isc" else String.ofList name
    else String.ofList (condensed (a :: b :: rest))
  | cs => String.ofList (condensed cs)

/-- Other names of categories, and names of groups of categories. -/
def categoryAliases : List (String × CharSet) := [
  ("l", letters), ("letter", letters),
  ("lc", casedLetter), ("casedletter", casedLetter),
  ("m", marks), ("mark", marks), ("combiningmark", marks),
  ("n", categoryGroup 'N'), ("number", categoryGroup 'N'),
  ("p", categoryGroup 'P'), ("punctuation", categoryGroup 'P'), ("punct", categoryGroup 'P'),
  ("s", categoryGroup 'S'), ("symbol", categoryGroup 'S'),
  ("z", categoryGroup 'Z'), ("separator", categoryGroup 'Z'),
  ("c", categoryGroup 'C'), ("other", categoryGroup 'C'),
  ("cntrl", categoryCc), ("digit", categoryNd),
  ("any", CharSet.full), ("assigned", categoryCn.complement), ("ascii", CharSet.range 0 127)]

/-- The entry of a table whose short or long name is a given one. -/
def row? {α : Type} (table : List (String × String × α)) (name : String) : Option α :=
  (table.find? fun e => plainName e.1 == name || plainName e.2.1 == name).map (·.2.2)

/-- The set of a general category. -/
def category? (name : String) : Option CharSet :=
  (categoryAliases.lookup name).or (row? categories name)

/-- Other names of scripts. -/
def scriptAliases : List (String × String) := [("qaac", "copt"), ("qaai", "zinh")]

/-- A script by a name: its short name and its code points. -/
def scriptRow? (name : String) : Option (String × CharSet) :=
  let name := (scriptAliases.lookup name).getD name
  (scriptTable.find? fun e => plainName e.1 == name || plainName e.2.1 == name).map
    fun e => (e.1, CharSet.ofText e.2.2)

/-- The set of a script. -/
def script? (name : String) : Option CharSet := (scriptRow? name).map (·.2)

/-- The characters that a script uses. A character whose scripts are listed is used by those and
by no other. -/
def scriptExtension? (name : String) : Option CharSet :=
  (scriptRow? name).map fun (short, own) =>
    let uses := scriptUses.map fun e => (CharSet.ofText e.1, CharList.split ' ' e.2.toList)
    let listed := CharSet.unions (uses.map (·.1))
    let users := (uses.filter fun e => e.2.contains short.toList).map (·.1)
    (own.diff listed).union (CharSet.unions users)

/-- The characters assigned in a version of Unicode or before it. -/
def assignedBy? (name : String) : Option CharSet :=
  let versionName := fun (v : String) => "v" ++ String.ofList (v.toList.filter (· != '.'))
  (versionTable.findIdx? fun e => e.1 == name || versionName e.1 == name).map fun i =>
    CharSet.unions ((versionTable.take (i + 1)).map fun e => CharSet.ofText e.2)

/-- Properties that a character has or has not, with their short and long names. -/
def properties : List (String × String × CharSet) := [
  ("AHex", "ASCII_Hex_Digit", asciiHexDigit),
  ("Alpha", "Alphabetic", alphabetic),
  ("Bidi_C", "Bidi_Control", bidiControl),
  ("Bidi_M", "Bidi_Mirrored", bidiMirrored),
  ("CI", "Case_Ignorable", caseIgnorable),
  ("Cased", "Cased", cased),
  ("CWCF", "Changes_When_Casefolded", changesWhenCasefolded),
  ("CWCM", "Changes_When_Casemapped", changesWhenCasemapped),
  ("CWL", "Changes_When_Lowercased", changesWhenLowercased),
  ("CWT", "Changes_When_Titlecased", changesWhenTitlecased),
  ("CWU", "Changes_When_Uppercased", changesWhenUppercased),
  ("Dash", "Dash", dash),
  ("DI", "Default_Ignorable_Code_Point", defaultIgnorable),
  ("Dep", "Deprecated", deprecated),
  ("Dia", "Diacritic", diacritic),
  ("Emoji", "Emoji", emoji),
  ("EComp", "Emoji_Component", emojiComponent),
  ("EMod", "Emoji_Modifier", emojiModifier),
  ("EBase", "Emoji_Modifier_Base", emojiModifierBase),
  ("EPres", "Emoji_Presentation", emojiPresentation),
  ("ExtPict", "Extended_Pictographic", extendedPictographic),
  ("Ext", "Extender", extender),
  ("Gr_Base", "Grapheme_Base", graphemeBase),
  ("Gr_Ext", "Grapheme_Extend", graphemeExtend),
  ("Gr_Link", "Grapheme_Link", graphemeLink),
  ("Hex", "Hex_Digit", hexDigit),
  ("Hyphen", "Hyphen", hyphen),
  ("IDSB", "IDS_Binary_Operator", idsBinaryOperator),
  ("IDST", "IDS_Trinary_Operator", idsTrinaryOperator),
  ("IDSU", "IDS_Unary_Operator", idsUnaryOperator),
  ("ID_Compat_Math_Continue", "ID_Compat_Math_Continue", compatMathContinue),
  ("ID_Compat_Math_Start", "ID_Compat_Math_Start", compatMathStart),
  ("IDC", "ID_Continue", idContinue),
  ("IDS", "ID_Start", idStart),
  ("Ideo", "Ideographic", ideographic),
  ("Join_C", "Join_Control", joinControl),
  ("LOE", "Logical_Order_Exception", logicalOrderException),
  ("Lower", "Lowercase", lowercase),
  ("Math", "Math", mathematical),
  ("MCM", "Modifier_Combining_Mark", modifierCombiningMark),
  ("NChar", "Noncharacter_Code_Point", noncharacter),
  ("OAlpha", "Other_Alphabetic", otherAlphabetic),
  ("ODI", "Other_Default_Ignorable_Code_Point", otherDefaultIgnorable),
  ("OGr_Ext", "Other_Grapheme_Extend", otherGraphemeExtend),
  ("OIDC", "Other_ID_Continue", otherIdContinue),
  ("OIDS", "Other_ID_Start", otherIdStart),
  ("OLower", "Other_Lowercase", otherLowercase),
  ("OMath", "Other_Math", otherMath),
  ("OUpper", "Other_Uppercase", otherUppercase),
  ("Pat_Syn", "Pattern_Syntax", patternSyntax),
  ("Pat_WS", "Pattern_White_Space", patternWhiteSpace),
  ("PCM", "Prepended_Concatenation_Mark", prependedMark),
  ("QMark", "Quotation_Mark", quotationMark),
  ("Radical", "Radical", radical),
  ("RI", "Regional_Indicator", regionalIndicator),
  ("STerm", "Sentence_Terminal", sentenceTerminal),
  ("SD", "Soft_Dotted", softDotted),
  ("Term", "Terminal_Punctuation", terminalPunctuation),
  ("UIdeo", "Unified_Ideograph", unifiedIdeograph),
  ("Upper", "Uppercase", uppercase),
  ("VS", "Variation_Selector", variationSelector),
  ("WSpace", "White_Space", whiteSpace),
  ("space", "White_Space", whiteSpace),
  ("XIDC", "XID_Continue", xidContinue),
  ("XIDS", "XID_Start", xidStart)]

/-- The set that a name stands for, as a property, a category or a script. -/
def named? (name : String) : Option CharSet :=
  let n := plainName name
  (row? properties n).or ((category? n).or (script? n))

/-- Properties with values, each with its names and the way its values are looked up. -/
def valuedProperties : List (String × String × (String → Option CharSet)) := [
  ("age", "Age", assignedBy?),
  ("gc", "General_Category", category?),
  ("GCB", "Grapheme_Cluster_Break", row? graphemeClasses),
  ("sc", "Script", script?),
  ("scx", "Script_Extensions", scriptExtension?),
  ("SB", "Sentence_Break", row? sentenceClasses),
  ("WB", "Word_Break", row? wordClasses)]

/-- The set of the characters whose property has a value. -/
def valued? (key value : String) : Option CharSet :=
  (row? valuedProperties (plainName key)).bind fun f => f (plainName value)

/-- Characters that words are made of. -/
def wordCharacters : CharSet :=
  CharSet.unions [alphabetic, marks, categoryNd, categoryPc, joinControl]

end CertAudit.Unicode
