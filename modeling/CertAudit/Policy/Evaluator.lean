/- Evaluators: judges under their names, and the patterns that judging has compiled so far. -/
import CertAudit.Policy
namespace CertAudit

/-- What an evaluator has under a name: an operator, which may look up patterns, or a predicate of
its own. -/
inductive Judge
  | operator (o : Operator)
  | predicate (p : Predicate)

namespace Judge

/-- The name of a judge in rules. -/
def name : Judge → String
  | .operator o => o.name
  | .predicate p => p.name

/-- The verdict with patterns from a cache, and the cache that it leaves. -/
def judgeIn (j : Judge) (cache : PatternCache) (target : Option Node) (ctx : Context)
    (operands : List Value) : Judgement × PatternCache :=
  match j with
  | .operator o => o.evaluateIn cache target ctx operands
  | .predicate p => (p.judge target ctx operands, cache)

/-- The predicate that judges with a cache as it is. -/
def toPredicate (j : Judge) (cache : PatternCache) : Predicate :=
  { name := j.name, judge := fun target ctx operands => (j.judgeIn cache target ctx operands).1 }

end Judge

/-- Judges, no name twice, and the patterns compiled so far. -/
structure Evaluator where
  judges : List Judge
  distinct : (judges.map Judge.name).Nodup
  cache : PatternCache := {}

namespace Evaluator

/-- Every operator, before any pattern has been compiled. -/
def full : Evaluator := { judges := Operator.all.map Judge.operator, distinct := by decide }

/-- The same judges, before any pattern has been compiled. -/
def fresh (e : Evaluator) : Evaluator := { e with cache := {} }

/-- What the judges say with the patterns compiled so far. -/
def registry (e : Evaluator) : Registry where
  predicates := e.judges.map fun j => j.toPredicate e.cache
  distinct := by
    rw [List.map_map]
    exact e.distinct

/-- The cache that judging a rule leaves. A rule that does not apply is not judged. -/
def cacheAfter (e : Evaluator) (ctx : Context) (r : Rule) : PatternCache :=
  if r.applies ctx.role? then
    match e.judges.find? fun j => j.name == r.operator with
    | some j => (j.judgeIn e.cache (ctx.root.resolve? r.target) ctx r.operands).2
    | none => e.cache
  else e.cache

/-- How a rule fares in a context, and the evaluator with the patterns compiled for it. -/
def evaluate (e : Evaluator) (ctx : Context) (r : Rule) : RuleResult × Evaluator :=
  (r.evaluate e.registry ctx, { e with cache := e.cacheAfter ctx r })

/-- How rules fare one after another, each in its own context. -/
def evaluateAll (e : Evaluator) : List (Context × Rule) → List RuleResult × Evaluator
  | [] => ([], e)
  | (ctx, r) :: rest =>
    let (result, next) := e.evaluate ctx r
    let (results, last) := next.evaluateAll rest
    (result :: results, last)

end Evaluator
end CertAudit
