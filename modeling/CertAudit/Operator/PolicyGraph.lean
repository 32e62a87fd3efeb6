/- Certificate policies that hold from a root down to a certificate, as a set of identifiers in
which one identifier stands for every policy. -/
import CertAudit.Operator.Value
namespace CertAudit.PolicyGraph

open Identifiers (anyPolicy)

/-- A set of policies: a list in which none comes twice. -/
abbrev PolicySet := List String

/-- A set with one more policy. -/
def add (policies : PolicySet) (p : String) : PolicySet :=
  if policies.contains p then policies else policies ++ [p]

/-- What has been found on the way down: the valid policies, and the steps from which on policies
are required, mappings are inhibited, and the policy for all policies is. -/
structure State where
  valid : PolicySet := [anyPolicy]
  requireExplicit : Option Nat := none
  inhibitMapping : Option Nat := none
  inhibitAny : Option Nat := none
deriving Repr, DecidableEq

/-- The step from which on a constraint is in force: the first one declared counts. -/
def threshold (found : Option Nat) (step : Nat) (skip : Option Nat) : Option Nat :=
  match found with
  | some t => some t
  | none => skip.map (step + 1 + ·)

/-- Whether a constraint is in force at a step. -/
def isActive (found : Option Nat) (step : Nat) : Bool :=
  match found with
  | some t => t ≤ step
  | none => false

/-- The policies of two sets that agree, where the policy for all policies agrees with any. -/
def intersect (valid declared : PolicySet) : PolicySet :=
  let validAny := valid.contains anyPolicy
  let declaredAny := declared.contains anyPolicy
  let kept := declared.filter fun p => validAny || valid.contains p
  let others := valid.filter fun p => declaredAny || declared.contains p
  let both := others.foldl add kept
  if declaredAny then add both anyPolicy else both

/-- The policies that stay valid where a certificate declares some. -/
def narrow (valid declared : PolicySet) : PolicySet :=
  if declared.isEmpty then []
  else if valid = [anyPolicy] then declared
  else intersect valid declared

/-- Adds the policies that valid ones are mapped to, one mapping after another. -/
def applyMappings (valid : PolicySet) (mappings : List PolicyMapping) : PolicySet :=
  mappings.foldl (fun v m => if v.contains m.issuerPolicy then add v m.subjectPolicy else v) valid

/-- The policies a certificate declares at a step. -/
def declaredAt (s : State) (step : Nat) (c : Certificate) : PolicySet :=
  let declared := (c.policies?.getD []).eraseDups
  if isActive s.inhibitAny step then declared.filter (· ≠ anyPolicy) else declared

/-- Takes one certificate into account. -/
def advance (s : State) (step : Nat) (c : Certificate) : State :=
  let valid := narrow s.valid (declaredAt s step c)
  let valid :=
    if isActive s.inhibitMapping step then valid else applyMappings valid c.policyMappings
  let (explicit, mapping) := c.policyConstraints?.getD (none, none)
  { valid
    requireExplicit := threshold s.requireExplicit step explicit
    inhibitMapping := threshold s.inhibitMapping step mapping
    inhibitAny := threshold s.inhibitAny step c.inhibitAnyPolicy? }

/-- Takes certificates into account one after another, from a step on. -/
def run (s : State) (step : Nat) : List Certificate → State
  | [] => s
  | c :: rest => run (advance s step c) (step + 1) rest

/-- The policies valid at the end of a path from a root down, and whether explicit ones are
required there. -/
def process (path : List Certificate) : PolicySet × Bool :=
  let s := run {} 0 path
  let required := isActive s.requireExplicit (path.length - 1)
  (if required then s.valid.filter (· ≠ anyPolicy) else s.valid, required)

/-- Whether a policy valid for the certificate under test is among the operands, or whether there
is one at all where there are none. -/
def judge (ctx : Context) (operands : List Value) : Bool :=
  match ctx.entry with
  | none => false
  | some e =>
    if ctx.chain.isEmpty then false
    else
      let path := ((ctx.chain.drop e.position).map (·.certificate)).reverse
      let valid := (process path).1
      let acceptable := Value.itemTexts operands
      valid.contains anyPolicy ||
        (if acceptable.isEmpty then !valid.isEmpty else acceptable.any valid.contains)

end CertAudit.PolicyGraph
