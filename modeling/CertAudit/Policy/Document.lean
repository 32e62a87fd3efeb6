/- Policies from YAML documents. A document is a policy, a list of policies, or a mapping with such
a list under the key `policies`. -/
import CertAudit.Policy
import CertAudit.Yaml.Content
namespace CertAudit

open Yaml (Content)

namespace PolicyDocument

/-- The content behind tags. -/
def untag : Content → Content
  | .tagged _ c => untag c
  | c => c

/-- The text of a content. -/
def text? (c : Content) : Option String :=
  match untag c with
  | .text s => some s
  | _ => none

/-- The text of a content that may be null. -/
def optionalText? : Content → Option (Option String)
  | .null => some none
  | c => (text? c).map some

/-- The items of a list; null has none. -/
def items? (c : Content) : Option (List Content) :=
  match untag c with
  | .sequence items => some items
  | .null => some []
  | _ => none

/-- The entries of a mapping; null has none. -/
def entries? (c : Content) : Option (List (Content × Content)) :=
  match untag c with
  | .mapping entries => some entries
  | .null => some []
  | _ => none

/-- The name of a choice: a text, or a tag on nothing. -/
def choice? : Content → Option String
  | .text s => some s
  | .tagged tag .null => some tag
  | _ => none

/-- The fields of a record. Each key must be a known spelling of a field, and no field may come
twice. -/
def fields? (known : List (String × String)) (c : Content) : Option (List (String × Content)) := do
  (← entries? c).foldlM (fun fields e => do
    let field ← known.lookup (← text? e.1)
    if (fields.lookup field).isSome then none else some (fields ++ [(field, e.2)])) []

/-- A field that must be there. -/
def required? {α : Type} (fields : List (String × Content)) (key : String)
    (read : Content → Option α) : Option α :=
  (fields.lookup key).bind read

/-- A field, or what stands for it where it is left out. -/
def field? {α : Type} (fields : List (String × Content)) (key : String)
    (read : Content → Option α) (missing : α) : Option α :=
  match fields.lookup key with
  | some c => read c
  | none => some missing

/-- A severity by its name. -/
def severity? (c : Content) : Option Severity := do
  let name ← choice? c
  [Severity.error, .warning, .info].find? fun s => s.name == name

/-- A role by its name. -/
def role? (c : Content) : Option ChainRole := do
  let name ← choice? c
  [ChainRole.leaf, .intermediate, .root].find? fun r => r.name == name

mutual

/-- An operand: a scalar or a list of operands. -/
def value? : Content → Option Value
  | .bool b => some (.bool b)
  | .integer i => Value.ofInt? i
  | .real x => some (.float x)
  | .text s => some (.string s)
  | .sequence items => (values? items).map .list
  | .null => none
  | .mapping _ => none
  | .tagged _ _ => none

/-- Operands. -/
def values? : List Content → Option (List Value)
  | [] => some []
  | c :: rest =>
    match value? c, values? rest with
    | some v, some vs => some (v :: vs)
    | _, _ => none

end

/-- The fields of a rule by their spellings. -/
def ruleFields : List (String × String) := [("id", "id"), ("target", "target"),
  ("operator", "operator"), ("operands", "operands"), ("severity", "severity"),
  ("appliesTo", "appliesTo"), ("applies_to", "appliesTo"), ("description", "description")]

/-- The fields of a policy by their spellings. -/
def policyFields : List (String × String) :=
  [("id", "id"), ("description", "description"), ("rules", "rules")]

/-- A rule. -/
def rule? (c : Content) : Option Rule := do
  let fields ← fields? ruleFields c
  some {
    id := ← required? fields "id" text?
    target := ← field? fields "target" text? ""
    operator := ← required? fields "operator" text?
    operands := ← field? fields "operands" (fun c => (items? c).bind values?) []
    severity := ← field? fields "severity" severity? .error
    appliesTo := ← field? fields "appliesTo" (fun c => do (← items? c).mapM role?) []
    description := ← field? fields "description" optionalText? none }

/-- A policy. -/
def policy? (c : Content) : Option Policy := do
  let fields ← fields? policyFields c
  some {
    id := ← required? fields "id" text?
    description := ← field? fields "description" optionalText? none
    rules := ← field? fields "rules" (fun c => do (← items? c).mapM rule?) [] }

/-- Whether a key is the one of a list of policies. -/
def isListKey : Content → Bool
  | .text s => s == "policies"
  | _ => false

/-- The policies of a document. An empty one has none. -/
def policies? : Content → Option (List Policy)
  | .null => some []
  | .sequence items => items.mapM policy?
  | .mapping entries =>
    match entries.find? fun e => isListKey e.1 with
    | some (_, list) => do (← items? list).mapM policy?
    | none => (policy? (.mapping entries)).map ([·])
  | c => (policy? c).map ([·])

end PolicyDocument

namespace Policy

/-- The policies that the documents of a text hold, none of them faulty. -/
def ofText (text : String) : Except Failure (List Policy) :=
  match (Yaml.contents? text).bind fun cs => cs.mapM PolicyDocument.policies? with
  | some policies => validated policies.flatten
  | none => .error .yaml

end Policy
end CertAudit
