/- A policy fails just where one of its grave rules applies and is broken. -/
import CertAudit.Policy
import Mathlib.Data.List.Nodup
namespace CertAudit

variable {registry : Registry} {ctx : Context}

@[simp] theorem Verdict.ofFailed_eq_fail {failed : Bool} :
    Verdict.ofFailed failed = .fail ↔ failed = true := by
  cases failed <;> simp [Verdict.ofFailed]

theorem Verdict.eq_pass_iff_ne_fail {v : Verdict} : v = .pass ↔ v ≠ .fail := by
  cases v <;> simp

theorem Registry.find_eq_ok_iff {name : String} {p : Predicate} :
    registry.find name = .ok p ↔ p ∈ registry.predicates ∧ p.name = name := by
  constructor
  · intro h
    simp only [find] at h
    split at h
    · rename_i q hq
      cases h
      exact ⟨List.mem_of_find?_eq_some hq, by simpa using List.find?_some hq⟩
    · cases h
  · rintro ⟨hmem, rfl⟩
    cases hq : registry.predicates.find? fun q => q.name == p.name with
    | none =>
      have hmiss := List.find?_eq_none.mp hq p hmem
      simp at hmiss
    | some q =>
      have hname : q.name = p.name := by simpa using List.find?_some hq
      have hsame : q = p :=
        List.inj_on_of_nodup_map registry.distinct (List.mem_of_find?_eq_some hq) hmem hname
      simp only [find, hq, hsame]

theorem Registry.find_eq_error {name : String} (h : ∀ p ∈ registry.predicates, p.name ≠ name) :
    registry.find name = .error (.unknown name) := by
  have hnone : (registry.predicates.find? fun p => p.name == name) = none :=
    List.find?_eq_none.mpr fun p hp => by simpa using h p hp
  simp only [find, hnone]

namespace Rule

/-- A rule can make its policy fail for a certificate with a part in its chain. -/
structure Binding (role : Option ChainRole) (r : Rule) : Prop where
  grave : r.severity = .error
  applies : r.appliesTo = [] ∨ ∃ part, role = some part ∧ part ∈ r.appliesTo

/-- What a rule names does not let its target pass: it is not there, gives no verdict, or a
negative one. -/
inductive Broken (registry : Registry) (ctx : Context) (r : Rule) : Prop
  | unregistered (h : ∀ p ∈ registry.predicates, p.name ≠ r.operator)
  | faulty {p : Predicate} {fault : OperatorFault} (hmem : p ∈ registry.predicates)
      (hname : p.name = r.operator)
      (h : p.judge (ctx.root.resolve? r.target) ctx r.operands = .error fault)
  | negative {p : Predicate} (hmem : p ∈ registry.predicates) (hname : p.name = r.operator)
      (h : p.judge (ctx.root.resolve? r.target) ctx r.operands = .ok false)

variable {r : Rule}

theorem applies_iff {role : Option ChainRole} :
    r.applies role = true ↔ r.appliesTo = [] ∨ ∃ part, role = some part ∧ part ∈ r.appliesTo := by
  cases role <;> simp [applies]

theorem judge_of_find {p : Predicate} (hmem : p ∈ registry.predicates)
    (hname : p.name = r.operator) :
    r.judge registry ctx = p.judge (ctx.root.resolve? r.target) ctx r.operands := by
  rw [judge, Registry.find_eq_ok_iff.mpr ⟨hmem, hname⟩]
  rfl

theorem broken_iff : r.Broken registry ctx ↔ r.judge registry ctx ≠ .ok true := by
  constructor
  · rintro (h | ⟨hmem, hname, h⟩ | ⟨hmem, hname, h⟩) hpass
    · rw [judge, Registry.find_eq_error h] at hpass
      cases hpass
    · rw [judge_of_find hmem hname, h] at hpass
      cases hpass
    · rw [judge_of_find hmem hname, h] at hpass
      cases hpass
  · intro hpass
    by_cases hfound : ∃ p ∈ registry.predicates, p.name = r.operator
    · obtain ⟨p, hmem, hname⟩ := hfound
      rw [judge_of_find hmem hname] at hpass
      cases hp : p.judge (ctx.root.resolve? r.target) ctx r.operands with
      | error fault => exact .faulty hmem hname hp
      | ok verdict =>
        cases verdict with
        | false => exact .negative hmem hname hp
        | true => exact absurd hp hpass
    · exact .unregistered fun p hmem hname => hfound ⟨p, hmem, hname⟩

@[simp] theorem evaluate_ruleId : (r.evaluate registry ctx).ruleId = r.id := by
  simp only [evaluate]
  split
  · rfl
  · split <;> rfl

@[simp] theorem evaluate_severity : (r.evaluate registry ctx).severity = r.severity := by
  simp only [evaluate]
  split
  · rfl
  · split <;> rfl

theorem evaluate_passed_eq_false :
    (r.evaluate registry ctx).passed = false ↔
      r.applies ctx.role? = true ∧ r.Broken registry ctx := by
  simp only [evaluate, broken_iff]
  split
  · rename_i hskip
    simp [by simpa using hskip]
  · rename_i happlies
    split <;> rename_i hjudge <;> simp [by simpa using happlies, hjudge]

end Rule

namespace Policy

theorem isFatal_evaluate {r : Rule} :
    isFatal (r.evaluate registry ctx) = true ↔
      r.Binding ctx.role? ∧ r.Broken registry ctx := by
  simp only [isFatal, Bool.and_eq_true, Bool.not_eq_true', Rule.evaluate_passed_eq_false,
    Rule.evaluate_severity, beq_iff_eq, Rule.applies_iff]
  constructor
  · rintro ⟨⟨happlies, hbroken⟩, hgrave⟩
    exact ⟨⟨hgrave, happlies⟩, hbroken⟩
  · rintro ⟨⟨hgrave, happlies⟩, hbroken⟩
    exact ⟨⟨happlies, hbroken⟩, hgrave⟩

theorem evaluate_verdict_eq_fail {p : Policy} :
    (p.evaluate registry ctx).verdict = .fail ↔
      ∃ r ∈ p.rules, r.Binding ctx.role? ∧ r.Broken registry ctx := by
  simp only [evaluate, Verdict.ofFailed_eq_fail, List.any_eq_true, List.mem_map]
  constructor
  · rintro ⟨_, ⟨r, hr, rfl⟩, hfatal⟩
    exact ⟨r, hr, isFatal_evaluate.mp hfatal⟩
  · rintro ⟨r, hr, hfails⟩
    exact ⟨_, ⟨r, hr, rfl⟩, isFatal_evaluate.mpr hfails⟩

end Policy
end CertAudit
