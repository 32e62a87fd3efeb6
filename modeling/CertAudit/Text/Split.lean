/- Cutting lists of characters. -/
namespace CertAudit.CharList

/-- The parts between the occurrences of a separator. There is one more than there are
separators. -/
def split (sep : Char) : List Char → List (List Char)
  | [] => [[]]
  | c :: rest =>
    if c = sep then [] :: split sep rest
    else match split sep rest with
      | [] => [[c]]
      | part :: parts => (c :: part) :: parts

end CertAudit.CharList
