/- Trees of files, and paths into them. -/
import CertAudit.Bytes
import CertAudit.Text.Split
namespace CertAudit

/-- A file with its content, or a directory with its entries by name. -/
inductive FileTree
  | file (content : Bytes)
  | directory (entries : List (String × FileTree))
deriving Inhabited

namespace FileTree

/-- What stands under a name in a directory. -/
def entry? (name : String) : FileTree → Option FileTree
  | .file _ => none
  | .directory entries => entries.lookup name

/-- Whether this is a directory. -/
def isDirectory : FileTree → Bool
  | .file _ => false
  | .directory _ => true

/-- Follows names from the last of some nested trees. A point stands for the directory itself, two
for the one around it. -/
def descend? : List String → List FileTree → Option FileTree
  | [], above => above.head?
  | name :: rest, above =>
    match above with
    | [] => none
    | here :: outer =>
      if name = "" ∨ name = "." then
        if here.isDirectory then descend? rest above else none
      else if name = ".." then
        if here.isDirectory then descend? rest outer else none
      else
        match here.entry? name with
        | some t => descend? rest (t :: above)
        | none => none

/-- What a path leads to from a directory. Only paths that do not begin with a slash do. -/
def find? (t : FileTree) (path : String) : Option FileTree :=
  match path.toList with
  | [] => none
  | c :: rest =>
    if c == '/' then none
    else descend? ((CharList.split '/' (c :: rest)).map String.ofList) [t]

/-- The path of an entry of a directory. -/
def entryPath (path name : String) : String :=
  if path = "" ∨ path.toList.getLast? = some '/' then path ++ name else path ++ "/" ++ name

/-- The name at the end of a path. -/
def lastName (path : String) : String :=
  String.ofList ((CharList.split '/' path.toList).getLast?.getD [])

/-- The order of names. -/
def nameOrder {α : Type} (a b : String × α) : Bool := a.1 < b.1 || a.1 == b.1

/-- A file that a walk comes upon. -/
structure Found where
  path : String
  name : String
  content : Bytes

mutual

/-- The files of a tree at a path, down to a depth of directories, in the order of their paths. -/
def files (path name : String) : Nat → FileTree → List Found
  | _, .file content => [{ path, name, content }]
  | 0, .directory _ => []
  | depth + 1, .directory entries => filesOf path depth (entries.mergeSort nameOrder)

/-- The files of the entries of a directory. -/
def filesOf (path : String) (depth : Nat) : List (String × FileTree) → List Found
  | [] => []
  | (name, t) :: rest => files (entryPath path name) name depth t ++ filesOf path depth rest

end

mutual

/-- The number of directories within each other. -/
def depth : FileTree → Nat
  | .file _ => 0
  | .directory entries => depthOf entries + 1

/-- The number of directories within each other among entries. -/
def depthOf : List (String × FileTree) → Nat
  | [] => 0
  | (_, t) :: rest => max (depth t) (depthOf rest)

end

/-- The extension of a file name: what follows the last point, if something comes before it. -/
def extension? (name : String) : Option String :=
  let (ext, rest) := name.toList.reverse.span (· != '.')
  if rest.length > 1 && name != ".." then some (String.ofList ext.reverse) else none

/-- Whether a file name has one of some extensions, in any case of letters. -/
def hasExtension (extensions : List String) (name : String) : Bool :=
  match extension? name with
  | some e => extensions.contains (String.ofList (e.toList.map Char.toLower))
  | none => false

end FileTree
end CertAudit
