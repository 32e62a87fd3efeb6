/- Policies from files, and from directories of them. -/
import CertAudit.Files
import CertAudit.Policy.Document
namespace CertAudit.Policy

/-- The extensions of policy files. -/
def fileExtensions : List String := ["yaml", "yml"]

/-- The policies that the content of a file holds. Where it is no such document the path tells
which file is meant. -/
def ofContent (path : String) (content : Bytes) : Except Failure (List Policy) :=
  match Bytes.toString? content with
  | none => .error .io
  | some text =>
    match ofText text with
    | .error .yaml => .error (.policy (.document path))
    | read => read

/-- The policies of the file at a path. -/
def ofFile (path : String) : Option FileTree → Except Failure (List Policy)
  | some (.file content) => ofContent path content
  | _ => .error .io

/-- The policies of all policy files at or below a path, in the order of their paths. -/
def ofDirectory (path : String) : Option FileTree → Except Failure (List Policy)
  | none => .error (.policy (.directory path))
  | some t => do
    let found := t.files path (FileTree.lastName path) t.depth
    let policies ← (found.filter fun f => FileTree.hasExtension fileExtensions f.name).mapM
      fun f => ofContent f.path f.content
    .ok policies.flatten

/-- The policies of what stands at a path, a file or a directory. -/
def ofPath (path : String) (t : Option FileTree) : Except Failure (List Policy) :=
  if t.any FileTree.isDirectory then ofDirectory path t else ofFile path t

end CertAudit.Policy
