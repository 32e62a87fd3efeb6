/- The cache of an evaluator never shows: every rule fares as it does without one. -/
import CertAudit.Policy.Evaluator
import CertAudit.Proofs.PatternCache
namespace CertAudit

variable {cache : PatternCache} {asked : List String} {o : Operator} {j : Judge} {e : Evaluator}
  {ctx : Context} {r : Rule} {target : Option Node} {operands : List Value}

namespace Operator

/-- The text of the pattern that an operator looks up: its one operand, if there is a target to
match with it. -/
def pattern? (o : Operator) (target : Option Node) (operands : List Value) : Option String :=
  match o, target, operands with
  | regex, some _, [v] => v.text?
  | notRegex, some _, [v] => v.text?
  | _, _, _ => none

theorem judgePatternIn_snd (o : Operator) (negated : Bool) (target : Option Node)
    (operands : List Value) :
    (o.judgePatternIn cache negated target operands).2 =
      (regex.pattern? target operands).elim cache fun source => (cache.get? source).2 := by
  match target, operands with
  | none, _ => rfl
  | some _, [] => rfl
  | some _, [v] => cases v <;> rfl
  | some _, _ :: _ :: _ => rfl

theorem judgePatternIn_fst (h : cache.Remembers asked) (o : Operator) (negated : Bool)
    (target : Option Node) (operands : List Value) :
    (o.judgePatternIn cache negated target operands).1 =
      o.judgePattern negated target operands := by
  match target, operands with
  | none, _ => rfl
  | some _, [] => rfl
  | some n, [.string source] =>
    have hsame : (cache.get? source).1 = (({} : PatternCache).get? source).1 := by
      rw [h.get?_fst, PatternCache.remembers_empty.get?_fst]
    exact congrArg (o.judgeText negated n source) hsame
  | some _, [.bool _] | some _, [.int _] | some _, [.uint _] | some _, [.float _]
  | some _, [.bytes _] | some _, [.time _] | some _, [.list _] => rfl
  | some _, _ :: _ :: _ => rfl

theorem evaluateIn_snd (o : Operator) (cache : PatternCache) (target : Option Node)
    (ctx : Context) (operands : List Value) :
    (o.evaluateIn cache target ctx operands).2 =
      (o.pattern? target operands).elim cache fun source => (cache.get? source).2 := by
  cases o with
  | regex => exact judgePatternIn_snd regex false target operands
  | notRegex =>
    have hsame : notRegex.pattern? target operands = regex.pattern? target operands := by
      match target, operands with
      | none, _ => rfl
      | some _, [] => rfl
      | some _, [v] => cases v <;> rfl
      | some _, _ :: _ :: _ => rfl
    rw [hsame]
    exact judgePatternIn_snd notRegex true target operands
  | _ => rfl

theorem evaluateIn_fst (h : cache.Remembers asked) (o : Operator) (target : Option Node)
    (ctx : Context) (operands : List Value) :
    (o.evaluateIn cache target ctx operands).1 = o.evaluate target ctx operands := by
  cases o with
  | regex => exact judgePatternIn_fst h regex false target operands
  | notRegex => exact judgePatternIn_fst h notRegex true target operands
  | _ => rfl

theorem evaluateIn_empty (o : Operator) (target : Option Node) (ctx : Context)
    (operands : List Value) :
    (o.evaluateIn {} target ctx operands).1 = o.evaluate target ctx operands :=
  evaluateIn_fst PatternCache.remembers_empty o target ctx operands

end Operator

namespace Judge

def pattern? (j : Judge) (target : Option Node) (operands : List Value) : Option String :=
  match j with
  | operator o => o.pattern? target operands
  | predicate _ => none

theorem judgeIn_snd (j : Judge) (cache : PatternCache) (target : Option Node) (ctx : Context)
    (operands : List Value) :
    (j.judgeIn cache target ctx operands).2 =
      (j.pattern? target operands).elim cache fun source => (cache.get? source).2 := by
  cases j with
  | operator o => exact o.evaluateIn_snd cache target ctx operands
  | predicate p => rfl

theorem toPredicate_eq (h : cache.Remembers asked) (j : Judge) :
    j.toPredicate cache = j.toPredicate {} := by
  cases j with
  | predicate p => rfl
  | operator o =>
    simp only [toPredicate, judgeIn, Predicate.mk.injEq, true_and]
    funext target ctx operands
    rw [o.evaluateIn_empty, Operator.evaluateIn_fst h]

end Judge

namespace Evaluator

/-- The text of the pattern that a rule has its judge look up, if it applies. -/
def pattern? (e : Evaluator) (ctx : Context) (r : Rule) : Option String :=
  if r.applies ctx.role? then
    (e.judges.find? fun j => j.name == r.operator).bind fun j =>
      j.pattern? (ctx.root.resolve? r.target) r.operands
  else none

/-- The texts that a history of rules looks up, one after another. -/
def patterns (e : Evaluator) (steps : List (Context × Rule)) : List String :=
  steps.filterMap fun s => e.pattern? s.1 s.2

theorem cacheAfter_eq (e : Evaluator) (ctx : Context) (r : Rule) :
    e.cacheAfter ctx r =
      (e.pattern? ctx r).elim e.cache fun source => (e.cache.get? source).2 := by
  simp only [cacheAfter, pattern?]
  split
  · split
    · next j hfound =>
      rw [hfound]
      exact j.judgeIn_snd _ _ _ _
    · next hmissing =>
      rw [hmissing]
      rfl
  · rfl

theorem registry_eq (h : e.cache.Remembers asked) : e.registry = e.fresh.registry := by
  have hsame : (e.judges.map fun j => j.toPredicate e.cache) =
      e.judges.map fun j => j.toPredicate {} :=
    List.map_congr_left fun j _ => j.toPredicate_eq h
  simp only [registry, fresh, hsame]

/-- The evaluator of all operators judges as the operators themselves do. -/
theorem registry_full : full.registry = Registry.full := by
  have hsame : (Operator.all.map Judge.operator).map (fun j => j.toPredicate {}) =
      Operator.all.map Operator.predicate := by
    rw [List.map_map]
    refine List.map_congr_left fun o _ => ?_
    simp only [Function.comp, Judge.toPredicate, Judge.judgeIn, o.evaluateIn_empty]
    rfl
  simp only [registry, full, Registry.full, hsame]

/-- One step: the result owes nothing to the past, and the cache remembers one more text if one
was looked up. -/
theorem evaluate_of_remembers (h : e.cache.Remembers asked) (ctx : Context) (r : Rule) :
    (e.evaluate ctx r).1 = (e.fresh.evaluate ctx r).1 ∧
      (e.evaluate ctx r).2.cache.Remembers (asked ++ (e.pattern? ctx r).toList) := by
  constructor
  · simp only [evaluate, registry_eq h]
  · simp only [evaluate, cacheAfter_eq]
    cases e.pattern? ctx r with
    | none => simpa using h
    | some source => exact h.get?_snd source

theorem evaluateAll_of_remembers (h : e.cache.Remembers asked) (steps : List (Context × Rule)) :
    (e.evaluateAll steps).1 = steps.map (fun s => (e.fresh.evaluate s.1 s.2).1) ∧
      (e.evaluateAll steps).2.cache.Remembers (asked ++ e.patterns steps) := by
  induction steps generalizing e asked with
  | nil => exact ⟨rfl, by simpa [patterns, evaluateAll] using h⟩
  | cons s rest ih =>
    obtain ⟨ctx, r⟩ := s
    -- The rest runs on the cache that the first rule leaves, which remembers one text more.
    obtain ⟨hresult, hcache⟩ := evaluate_of_remembers h ctx r
    obtain ⟨hresults, hlast⟩ := ih hcache
    refine ⟨List.cons_eq_cons.mpr ⟨hresult, hresults⟩, ?_⟩
    have hpatterns : e.patterns ((ctx, r) :: rest) =
        (e.pattern? ctx r).toList ++ e.patterns rest := by
      simp only [patterns, List.filterMap_cons]
      cases e.pattern? ctx r <;> rfl
    rw [hpatterns, ← List.append_assoc]
    exact hlast

/-- Rules that share an evaluator fare as if each had one of its own. What has been compiled on the
way are the patterns that the texts looked up so far spell, each of them once and for its own text,
and nothing for a text that spells none. -/
theorem evaluateAll_fresh (e : Evaluator) (steps : List (Context × Rule)) :
    (e.fresh.evaluateAll steps).1 = steps.map (fun s => (e.fresh.evaluate s.1 s.2).1) ∧
      (∀ source p, (source, p) ∈ (e.fresh.evaluateAll steps).2.cache.entries ↔
        source ∈ e.patterns steps ∧ Pattern.ofText? source = some p) ∧
      (e.fresh.evaluateAll steps).2.cache.size =
        ((e.patterns steps).toFinset.filter fun s => (Pattern.ofText? s).isSome).card := by
  obtain ⟨hresults, hcache⟩ :=
    evaluateAll_of_remembers (e := e.fresh) PatternCache.remembers_empty steps
  exact ⟨hresults, hcache.mem_iff, hcache.size_eq⟩

/-- So an evaluator of all operators gives what the operators alone do, whatever it judged before. -/
theorem evaluateAll_full (steps : List (Context × Rule)) :
    (full.evaluateAll steps).1 = steps.map fun s => s.2.evaluate Registry.full s.1 := by
  rw [(evaluateAll_of_remembers (e := full) PatternCache.remembers_empty steps).1]
  refine List.map_congr_left fun s _ => ?_
  rw [← registry_full]
  rfl

end Evaluator
end CertAudit
