/- Policies: lists of rules, and how a context fares under them. -/
import CertAudit.Operator
namespace CertAudit

/-- How grave it is to fail a rule. -/
inductive Severity
  | error
  | warning
  | info
deriving Repr, DecidableEq, Inhabited

/-- The name of a severity. -/
def Severity.name : Severity → String
  | .error => "error"
  | .warning => "warning"
  | .info => "info"

/-- A rule: an operator on the node at a path. An empty list of roles applies to all. -/
structure Rule where
  id : String
  target : String := ""
  operator : String
  operands : List Value := []
  severity : Severity := .error
  appliesTo : List ChainRole := []
  description : Option String := none

/-- A policy. -/
structure Policy where
  id : String
  description : Option String := none
  rules : List Rule := []

/-- Whether something passes or fails. -/
inductive Verdict
  | pass
  | fail
deriving Repr, DecidableEq

namespace Verdict

/-- The name of a verdict. -/
def name : Verdict → String
  | .pass => "pass"
  | .fail => "fail"

/-- The name in capitals. -/
def capitals : Verdict → String
  | .pass => "PASS"
  | .fail => "FAIL"

/-- The verdict on something that may have failed. -/
def ofFailed (failed : Bool) : Verdict := if failed then .fail else .pass

end Verdict

/-- How a rule fared. A rule that does not apply is skipped, which passes. -/
structure RuleResult where
  ruleId : String
  passed : Bool
  skipped : Bool
  message : String
  severity : Severity
deriving Repr, DecidableEq

/-- How a policy fared. -/
structure PolicyResult where
  policyId : String
  verdict : Verdict
  results : List RuleResult
deriving Repr, DecidableEq

/-- The results of rules that did not pass. -/
def PolicyResult.failures (p : PolicyResult) : List RuleResult :=
  p.results.filter fun r => !r.passed

namespace Rule

/-- Texts with a comma and a blank between them. -/
def listed (texts : List String) : String := ", ".intercalate texts

/-- Whether a rule applies in a role; without a role only one that applies to all does. -/
def applies (r : Rule) (role : Option ChainRole) : Bool :=
  r.appliesTo.isEmpty ||
    match role with
    | some role => r.appliesTo.contains role
    | none => false

/-- The message of a rule that does not apply. -/
def skipMessage (r : Rule) : String :=
  "skipped: applies to " ++ listed (r.appliesTo.map ChainRole.name)

/-- The message of a rule that failed on a value. -/
def failureMessage (r : Rule) (actual : Option Value) : String :=
  let target := if r.target = "" then "<root>" else r.target
  let found := match actual with
    | some v => " (" ++ v.display ++ ")"
    | none => ""
  let operands :=
    if r.operands.isEmpty then "" else " [" ++ listed (r.operands.map Value.display) ++ "]"
  target ++ found ++ " failed " ++ r.operator ++ operands

/-- The verdict of the operator of a rule on its target. -/
def judge (registry : Registry) (ctx : Context) (r : Rule) : Judgement := do
  let p ← registry.find r.operator
  p.judge (ctx.root.resolve? r.target) ctx r.operands

/-- How a rule fares in a context. -/
def evaluate (registry : Registry) (ctx : Context) (r : Rule) : RuleResult :=
  let result := fun (passed skipped : Bool) (message : String) =>
    ({ ruleId := r.id, passed, skipped, message, severity := r.severity } : RuleResult)
  if !r.applies ctx.role? then result true true r.skipMessage
  else
    match r.judge registry ctx with
    | .ok true => result true false "passed"
    | .ok false =>
      result false false (r.failureMessage ((ctx.root.resolve? r.target).bind Node.value))
    | .error fault => result false false fault.message

end Rule

namespace Policy

/-- Whether a result makes its policy fail. -/
def isFatal (r : RuleResult) : Bool := !r.passed && r.severity == .error

/-- How a policy fares in a context. -/
def evaluate (registry : Registry) (ctx : Context) (p : Policy) : PolicyResult :=
  let results := p.rules.map (Rule.evaluate registry ctx)
  { policyId := p.id, verdict := .ofFailed (results.any isFatal), results }

/-- Whether a text holds nothing but white space. -/
def isBlank (s : String) : Bool := s.toList.all Unicode.isWhiteSpace

/-- The first fault of rules, given the identifiers of the rules before them. -/
def ruleFault? (policy : String) (seen : List String) : List Rule → Option PolicyFault
  | [] => none
  | r :: rest =>
    if isBlank r.id then some (.emptyRuleId policy)
    else if isBlank r.operator then some (.noOperator policy r.id)
    else if seen.contains r.id then some (.duplicateRule policy r.id)
    else ruleFault? policy (r.id :: seen) rest

/-- The first fault of a policy. -/
def fault? (p : Policy) : Option PolicyFault :=
  if isBlank p.id then some .emptyId else ruleFault? p.id [] p.rules

/-- The policies, if none of them has a fault. -/
def validated (policies : List Policy) : Except Failure (List Policy) :=
  match policies.findSome? fault? with
  | some fault => .error (.policy fault)
  | none => .ok policies

/-- A member that may be missing. -/
def optionalMember (key : String) (text : Option String) : List (String × Json) :=
  (text.map fun s => (key, Json.string s)).toList

end Policy

/-- A rule as a document. -/
def Rule.toJson (r : Rule) : Json :=
  .object ([("id", .string r.id), ("target", .string r.target), ("operator", .string r.operator),
    ("operands", .array (Value.itemsToJson r.operands)), ("severity", .string r.severity.name),
    ("appliesTo", .array (r.appliesTo.map fun role => .string role.name))] ++
    Policy.optionalMember "description" r.description)

/-- A policy as a document. -/
def Policy.toJson (p : Policy) : Json :=
  .object (("id", .string p.id) :: (Policy.optionalMember "description" p.description ++
    [("rules", .array (p.rules.map Rule.toJson))]))

end CertAudit
