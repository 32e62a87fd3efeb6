/- JSON documents and their texts, compact or indented by two blanks a level. -/
import CertAudit.Number.Shortest
namespace CertAudit

/-- A JSON document. Members of an object keep their order. -/
inductive Json
  | null
  | bool (b : Bool)
  | integer (i : Int)
  | real (x : Binary64)
  | string (s : String)
  | array (items : List Json)
  | object (members : List (String × Json))
deriving Repr, Inhabited

namespace Json

/-- Four hexadecimal digits. -/
def fourDigits (n : Nat) : List Char :=
  let ds := Nat.toDigits 16 n
  List.replicate (4 - ds.length) '0' ++ ds

/-- How a character of a string is written. -/
def escape (c : Char) : List Char :=
  if c == '"' then ['\\', '"']
  else if c == '\\' then ['\\', '\\']
  else if c == '\n' then ['\\', 'n']
  else if c == '\r' then ['\\', 'r']
  else if c == '\t' then ['\\', 't']
  else if c.toNat == 8 then ['\\', 'b']
  else if c.toNat == 12 then ['\\', 'f']
  else if c.toNat < 32 then '\\' :: 'u' :: fourDigits c.toNat
  else [c]

/-- A string between quotes. -/
def stringChars (s : String) : List Char := '"' :: (s.toList.flatMap escape ++ ['"'])

/-- The text of a number; what is not finite has none and is written as null. -/
def realChars (x : Binary64) : List Char := (x.document?.getD "null").toList

/-- The comma before an item that is not the first. -/
def separator (first : Bool) : List Char := if first then [] else [',']

mutual

/-- The text without blanks. -/
def compactChars : Json → List Char
  | .null => "null".toList
  | .bool b => (if b then "true" else "false").toList
  | .integer i => (toString i).toList
  | .real x => realChars x
  | .string s => stringChars s
  | .array items => '[' :: (compactItems true items ++ [']'])
  | .object members => '\x7b' :: (compactMembers true members ++ ['\x7d'])

/-- The items of an array without blanks. -/
def compactItems (first : Bool) : List Json → List Char
  | [] => []
  | x :: rest => separator first ++ compactChars x ++ compactItems false rest

/-- The members of an object without blanks. -/
def compactMembers (first : Bool) : List (String × Json) → List Char
  | [] => []
  | (key, x) :: rest =>
    separator first ++ stringChars key ++ ':' :: compactChars x ++ compactMembers false rest

end

/-- A new line at a level of indentation. -/
def newLine (level : Nat) : List Char := '\n' :: List.replicate (2 * level) ' '

mutual

/-- The text with every item and member on a line of its own. -/
def indentedChars (level : Nat) : Json → List Char
  | .array [] => ['[', ']']
  | .array (x :: rest) => '[' :: (indentedItems level true (x :: rest) ++ newLine level ++ [']'])
  | .object [] => ['\x7b', '\x7d']
  | .object (m :: rest) =>
    '\x7b' :: (indentedMembers level true (m :: rest) ++ newLine level ++ ['\x7d'])
  | .null => "null".toList
  | .bool b => (if b then "true" else "false").toList
  | .integer i => (toString i).toList
  | .real x => realChars x
  | .string s => stringChars s

/-- The items of an array, a level below it. -/
def indentedItems (level : Nat) (first : Bool) : List Json → List Char
  | [] => []
  | x :: rest =>
    separator first ++ newLine (level + 1) ++ indentedChars (level + 1) x ++
      indentedItems level false rest

/-- The members of an object, a level below it. -/
def indentedMembers (level : Nat) (first : Bool) : List (String × Json) → List Char
  | [] => []
  | (key, x) :: rest =>
    separator first ++ newLine (level + 1) ++ stringChars key ++ ':' :: ' ' ::
      indentedChars (level + 1) x ++ indentedMembers level false rest

end

/-- The compact text of a document. -/
def compact (j : Json) : String := String.ofList j.compactChars

/-- The indented text of a document. -/
def indented (j : Json) : String := String.ofList (j.indentedChars 0)

/-- The member of an object with a key; of several the last. -/
def member? (key : String) : Json → Option Json
  | .object members => members.reverse.lookup key
  | _ => none

end Json
end CertAudit
