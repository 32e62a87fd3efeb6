/- Tables: lists of keys with entries, in increasing order of the keys. -/
namespace CertAudit.Table

/-- Puts an entry in its place; an entry of the same key gives way. -/
def insert {α : Type} (key : String) (x : α) : List (String × α) → List (String × α)
  | [] => [(key, x)]
  | (k, y) :: rest =>
    if key < k then (key, x) :: (k, y) :: rest
    else if key = k then (k, x) :: rest
    else (k, y) :: insert key x rest

/-- Puts the entries of one table into another. -/
def overlay {α : Type} (entries base : List (String × α)) : List (String × α) :=
  entries.foldl (fun t e => insert e.1 e.2 t) base

end CertAudit.Table
