/- Judging with operators, and the registry that rules look them up in. -/
import CertAudit.Operator.Certificate
import CertAudit.Operator.NameConstraints
import CertAudit.Operator.PolicyGraph
import CertAudit.Operator.Revocation
namespace CertAudit
namespace Operator

/-- The verdict of an operator on the node that a rule targets, if there is one. -/
def evaluate (o : Operator) (target : Option Node) (ctx : Context) (operands : List Value) :
    Judgement :=
  match o with
  | .eq => .ok (judgeEqual false target operands)
  | .neq => .ok (judgeEqual true target operands)
  | .matching => judgeMatching .matching target ctx.root operands
  | .gt => judgeNumber .gt (fun a b => b.below a) target operands
  | .gte => judgeNumber .gte (fun a b => b.atMost a) target operands
  | .lt => judgeNumber .lt Binary64.below target operands
  | .lte => judgeNumber .lte Binary64.atMost target operands
  | .isIn => judgeMember .isIn false target operands
  | .notIn => judgeMember .notIn true target operands
  | .contains => judgeContains target operands
  | .minLength => judgeLength .minLength (fun n bound => bound ≤ n) target operands
  | .maxLength => judgeLength .maxLength (fun n bound => n ≤ bound) target operands
  | .isEmpty => .ok (holdsNothing target)
  | .notEmpty => .ok (!holdsNothing target)
  | .regex => judgePattern .regex false target operands
  | .notRegex => judgePattern .notRegex true target operands
  | .before => judgeTime .before Timestamp.before target ctx.now operands
  | .after => judgeTime .after (fun s t => t.before s) target ctx.now operands
  | .isCritical => .ok (judgeCritical false target)
  | .notCritical => .ok (judgeCritical true target)
  | .positive => .ok (judgePositive target)
  | .present => .ok target.isSome
  | .signedBy => .ok (withIssuer Certificate.isSignedBy ctx)
  | .issuedBy => .ok (withIssuer (fun c issuer => c.issuerLine == issuer.subjectLine) ctx)
  | .akiMatchesSki => .ok (judgeKeyIds ctx)
  | .pathLenValid => .ok (judgePathLength ctx)
  | .nameConstraintsValid => .ok (NameConstraints.judge ctx)
  | .certificatePolicyValid => .ok (PolicyGraph.judge ctx operands)
  | .crlValid => .ok (judgeLists (fun l => l.isCurrent ctx.now) ctx)
  | .crlNotExpired => .ok (judgeLists (fun l => !l.isExpired ctx.now) ctx)
  | .crlSignedBy => .ok (judgeListSigners ctx)
  | .notRevoked => .ok (judgeNotListed ctx)
  | .ocspValid => .ok (judgeResponses (fun r =>
      r.isSuccessful && r.responses.all fun s => s.isCurrent ctx.now) ctx)
  | .ocspNotExpired => .ok (judgeResponses (fun r =>
      r.responses.all fun s => !s.isExpired ctx.now) ctx)
  | .ocspSignedBy => .ok (judgeResponseSigners ctx)
  | .notRevokedOcsp => .ok (judgeNotRevoked ctx)
  | .ocspGood => .ok (judgeGood ctx)
  | .keyAlgorithm => judgeKeyAlgorithm ctx operands
  | .minKeySize => judgeKeySize ctx operands
  | .noUnknownCriticalExtensions => .ok (judgeCriticalExtensions ctx)

/-- The verdict of an operator that takes patterns from a cache, and the cache that it leaves. -/
def evaluateIn (o : Operator) (cache : PatternCache) (target : Option Node) (ctx : Context)
    (operands : List Value) : Judgement × PatternCache :=
  match o with
  | .regex => regex.judgePatternIn cache false target operands
  | .notRegex => notRegex.judgePatternIn cache true target operands
  | o => (o.evaluate target ctx operands, cache)

end Operator

/-- An operator as rules meet it: its name, and its verdict on the node that a rule targets. -/
structure Predicate where
  name : String
  judge : Option Node → Context → List Value → Judgement

/-- An operator under its name. -/
def Operator.predicate (o : Operator) : Predicate := { name := o.name, judge := o.evaluate }

/-- What rules may name, no name twice. -/
structure Registry where
  predicates : List Predicate
  distinct : (predicates.map Predicate.name).Nodup

namespace Registry

/-- Nothing to name. -/
def empty : Registry := ⟨[], .nil⟩

/-- Every operator. -/
def full : Registry := ⟨Operator.all.map Operator.predicate, by decide⟩

/-- Puts a predicate under its name; one that had the name gives way. -/
def add (r : Registry) (p : Predicate) : Registry where
  predicates := r.predicates.filter (fun q => q.name != p.name) ++ [p]
  distinct := by
    have hkept : ((r.predicates.filter fun q => q.name != p.name).map Predicate.name).Nodup :=
      r.distinct.sublist (List.filter_sublist.map _)
    rw [List.map_append, List.nodup_append]
    refine ⟨hkept, List.pairwise_singleton _ _, ?_⟩
    intro name hname other hother
    obtain ⟨q, hq, rfl⟩ := List.mem_map.mp hname
    rw [List.map_singleton, List.mem_singleton] at hother
    simpa [hother] using (List.mem_filter.mp hq).2

/-- Adds an operator. -/
def register (r : Registry) (o : Operator) : Registry := r.add o.predicate

/-- What has a name. -/
def find (r : Registry) (name : String) : Except OperatorFault Predicate :=
  match r.predicates.find? fun p => p.name == name with
  | some p => .ok p
  | none => .error (.unknown name)

/-- The number of names. -/
def size (r : Registry) : Nat := r.predicates.length

/-- The names in increasing order. -/
def names (r : Registry) : List String :=
  (r.predicates.map Predicate.name).mergeSort fun a b => a < b || a == b

/-- A description that lists the names. -/
def describe (r : Registry) : String :=
  "OperatorRegistry \x7b operators: [" ++ ", ".intercalate (r.names.map Quoted.quote) ++ "] \x7d"

end Registry
end CertAudit
