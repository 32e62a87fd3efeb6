/- The commands there are, and how words ask for them. -/
import CertAudit.Command.Argument
import CertAudit.Number.Literal
namespace CertAudit

/-- How a report is written. -/
inductive ReportFormat
  | text
  | json
  | yaml
deriving Repr, DecidableEq

/-- The name of a format. -/
def ReportFormat.name : ReportFormat → String
  | .text => "text"
  | .json => "json"
  | .yaml => "yaml"

/-- The format with a name. -/
def ReportFormat.ofName? (name : String) : Option ReportFormat :=
  [ReportFormat.text, .json, .yaml].find? fun f => f.name == name

/-- What to audit: the paths of certificates, policies, revocation lists and status responses, the
time, either itself or as a span from now, and how to go about it. -/
structure AuditRequest where
  inputs : List String := []
  policies : List String := []
  lists : List String := []
  responses : List String := []
  format : Option ReportFormat := none
  failuresOnly : Bool := false
  batch : Bool := false
  recurse : Bool := false
  atTime : Option Int := none
  span : Option String := none
  allowPartial : Bool := false
deriving Repr, DecidableEq

/-- Which tree to show. -/
structure TreeRequest where
  file : Option String := none
  json : Bool := false
deriving Repr, DecidableEq

/-- A command. -/
inductive Command
  | audit (request : AuditRequest)
  | tree (request : TreeRequest)
  | operators
deriving Repr, DecidableEq

/-- Why words are no command: they ask for help, or they are wrong. -/
inductive NoCommand
  | help
  | misuse
deriving Repr, DecidableEq

/-- What words come to. -/
abbrev Understood := Except NoCommand

namespace Command

/-- The options that every command knows. -/
def commonForms : List OptionForm := [{ name := "verbose", letter := some 'v' },
  { name := "help", letter := some 'h' }]

/-- The options before the name of a command. -/
def leadingForms : List OptionForm := commonForms ++ [{ name := "version", letter := some 'V' }]

/-- The options of an audit. -/
def auditForms : List OptionForm := commonForms ++ [
  { name := "policy", letter := some 'p', hasValue := true },
  { name := "crl", hasValue := true }, { name := "ocsp", hasValue := true },
  { name := "format", hasValue := true }, { name := "failures-only" }, { name := "batch" },
  { name := "recurse", letter := some 'r' }, { name := "attime", hasValue := true },
  { name := "in", hasValue := true }, { name := "allow-partial-chain" }]

/-- The options of showing a tree. -/
def treeForms : List OptionForm := commonForms ++ [{ name := "json" }]

/-- What an argument means to a command that knows only the common options. -/
def common {α : Type} (request : α) : Argument → Understood α
  | .flag "verbose" => .ok request
  | .flag "help" => .error .help
  | _ => .error .misuse

/-- What may be said once only. -/
def once {α : Type} (before : Bool) (request : α) : Understood α :=
  if before then .error .misuse else .ok request

/-- A value that must have a meaning. -/
def meant {α : Type} : Option α → Understood α
  | some x => .ok x
  | none => .error .misuse

/-- A path must not be empty. -/
def pathOf (text : String) : Understood String := if text = "" then .error .misuse else .ok text

/-- A whole number of sixty-four bits. -/
def secondsOf? (text : String) : Option Int :=
  (Literal.intIn? 10 text.toList).filter fun i =>
    decide (Int64.minValue.toInt ≤ i ∧ i ≤ Int64.maxValue.toInt)

/-- What an argument adds to an audit. -/
def addToAudit (r : AuditRequest) : Argument → Understood AuditRequest
  | .operand path => do return { r with inputs := r.inputs ++ [← pathOf path] }
  | .value "policy" path => do return { r with policies := r.policies ++ [← pathOf path] }
  | .value "crl" path => do return { r with lists := r.lists ++ [← pathOf path] }
  | .value "ocsp" path => do return { r with responses := r.responses ++ [← pathOf path] }
  | .value "format" name => do
    once r.format.isSome { r with format := some (← meant (ReportFormat.ofName? name)) }
  | .value "attime" text => do
    once r.atTime.isSome { r with atTime := some (← meant (secondsOf? text)) }
  | .value "in" text => once r.span.isSome { r with span := some text }
  | .flag "failures-only" => once r.failuresOnly { r with failuresOnly := true }
  | .flag "batch" => once r.batch { r with batch := true }
  | .flag "recurse" => once r.recurse { r with recurse := true }
  | .flag "allow-partial-chain" => once r.allowPartial { r with allowPartial := true }
  | a => common r a

/-- An audit needs a policy, and at most one way to tell the time. -/
def checkAudit (r : AuditRequest) : Understood AuditRequest :=
  if r.policies.isEmpty || (r.atTime.isSome && r.span.isSome) then .error .misuse else .ok r

/-- What an argument adds to showing a tree. -/
def addToTree (r : TreeRequest) : Argument → Understood TreeRequest
  | .operand path => do once r.file.isSome { r with file := some (← pathOf path) }
  | .flag "json" => once r.json { r with json := true }
  | a => common r a

/-- The paths that a command reads. -/
def paths : Command → List String
  | .audit r => r.policies ++ r.lists ++ r.responses ++ r.inputs
  | .tree r => r.file.toList
  | .operators => []

/-- Whether a command reads the standard input. -/
def readsInput : Command → Bool
  | .audit r => r.inputs.isEmpty && !r.batch
  | .tree r => r.file.isNone
  | .operators => false

/-- The names of the commands, and of asking for help. -/
def names : List String := ["lint", "tree", "operators", "help"]

/-- What words behind the name of a command ask for. -/
def ofName (name : String) (words : List String) : Understood Command :=
  match name with
  | "lint" => do
    let r ← (Argument.ofWords auditForms none words).foldlM addToAudit {}
    return .audit (← checkAudit r)
  | "tree" => do return .tree (← (Argument.ofWords treeForms none words).foldlM addToTree {})
  | "operators" => do
    (Argument.ofWords commonForms none words).foldlM common ()
    return .operators
  | "help" =>
    match words with
    | [] => .error .help
    | [topic] => .error (if names.contains topic then .help else .misuse)
    | _ => .error .misuse
  | _ => .error .misuse

/-- What an argument before the name of a command means. -/
def lead (_ : Unit) : Argument → Understood Unit
  | .flag "version" => .error .help
  | a => common () a

/-- The command that words ask for. -/
def ofWords (words : List String) : Understood Command := do
  let (options, rest) := words.span Argument.isDashed
  (Argument.ofWords leadingForms none options).foldlM lead ()
  match rest with
  | name :: words => if options.contains "--" then .error .misuse else ofName name words
  | [] => .error .misuse

end Command
end CertAudit
