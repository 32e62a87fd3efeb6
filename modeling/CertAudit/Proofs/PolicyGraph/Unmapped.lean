/- The policies valid at the end of a path on which no policy is mapped to another. -/
import CertAudit.Proofs.Certificate
import CertAudit.Proofs.PolicyGraph.Step
import CertAudit.Proofs.PolicyGraph.Threshold
namespace CertAudit.PolicyGraph

open Identifiers (anyPolicy)

/-- A policy is declared at a step of a path. The policy for all policies is not once it is
inhibited. -/
def DeclaredAt (path : List Certificate) (step : Nat) (p : String) : Prop :=
  ∃ c, path[step]? = some c ∧ p ∈ c.policies?.getD [] ∧
    (p = anyPolicy → ¬ InForce Certificate.inhibitAnyPolicy? path step)

/-- A policy enters at a step below a wildcard, or at the root, and is declared or let through by
a wildcard at each further step before another. -/
def CarriedTo (path : List Certificate) (p : String) (step : Nat) : Prop :=
  ∃ j, j < step ∧ DeclaredAt path j p ∧ (j = 0 ∨ DeclaredAt path (j - 1) anyPolicy) ∧
    ∀ k, j < k → k < step → DeclaredAt path k p ∨ DeclaredAt path k anyPolicy

variable {path : List Certificate}

/-- The state before a step. -/
def before (path : List Certificate) (step : Nat) : State := run {} 0 (path.take step)

theorem before_succ {step : Nat} {c : Certificate} (h : path[step]? = some c) :
    before path (step + 1) = advance (before path step) step c := by
  have hlt : step ≤ path.length := Nat.le_of_lt (List.getElem?_eq_some_iff.mp h).1
  simp only [before, List.take_add_one, h, Option.toList_some, run_append, List.length_take,
    Nat.min_eq_left hlt, Nat.zero_add, run]

theorem mem_declaredAt {step : Nat} {c : Certificate} (h : path[step]? = some c) {p : String} :
    p ∈ declaredAt (before path step) step c ↔ DeclaredAt path step p := by
  have hactive : isActive (before path step).inhibitAny step = true ↔
      InForce Certificate.inhibitAnyPolicy? path step := tracks_any.isActive_take step
  simp only [declaredAt, DeclaredAt, h, Option.some.injEq, exists_eq_left']
  split
  · rename_i hinhibit
    simp [hactive.mp hinhibit]
  · rename_i hinhibit
    simp [mt hactive.mpr hinhibit]

/-- Without mappings, one more certificate narrows the valid policies to what it declares. -/
theorem valid_succ {step : Nat} {c : Certificate} (h : path[step]? = some c)
    (hm : c.policyMappings = []) :
    (before path (step + 1)).valid =
      narrow (before path step).valid (declaredAt (before path step) step c) := by
  rw [before_succ h]
  simp only [advance, hm, applyMappings, List.foldl_nil, ite_self]

theorem anyPolicy_mem_valid (hm : ∀ c ∈ path, c.policyMappings = []) {step : Nat}
    (hs : step ≤ path.length) :
    anyPolicy ∈ (before path step).valid ↔ step = 0 ∨ DeclaredAt path (step - 1) anyPolicy := by
  cases step with
  | zero => simp [before, run]
  | succ step =>
    have hc : path[step]? = some path[step] := List.getElem?_eq_getElem hs
    rw [valid_succ hc (hm _ (List.getElem_mem hs)), anyPolicy_mem_narrow, mem_declaredAt hc]
    simp

/-- Entering at a step, or carried to it and let through. -/
theorem carriedTo_succ {step : Nat} {p : String} :
    CarriedTo path p (step + 1) ↔
      (DeclaredAt path step p ∧ (step = 0 ∨ DeclaredAt path (step - 1) anyPolicy)) ∨
      (CarriedTo path p step ∧ (DeclaredAt path step p ∨ DeclaredAt path step anyPolicy)) := by
  constructor
  · rintro ⟨j, hj, hdeclared, henter, hcarry⟩
    rcases Nat.lt_succ_iff_lt_or_eq.mp hj with hlt | rfl
    · refine .inr ⟨⟨j, hlt, hdeclared, henter, ?_⟩, hcarry step hlt (Nat.lt_succ_self step)⟩
      exact fun k hjk hk => hcarry k hjk (Nat.lt_succ_of_lt hk)
    · exact .inl ⟨hdeclared, henter⟩
  · rintro (⟨hdeclared, henter⟩ | ⟨⟨j, hj, hdeclared, henter, hcarry⟩, hlast⟩)
    · exact ⟨step, Nat.lt_succ_self step, hdeclared, henter, fun k hk hk' => by omega⟩
    · refine ⟨j, Nat.lt_succ_of_lt hj, hdeclared, henter, ?_⟩
      intro k hjk hk
      rcases Nat.lt_succ_iff_lt_or_eq.mp hk with hlt | rfl
      · exact hcarry k hjk hlt
      · exact hlast

/-- The invariant of the way down: the valid policies before a step are those carried to it. -/
theorem mem_valid_iff_carriedTo (hm : ∀ c ∈ path, c.policyMappings = []) {p : String}
    (hp : p ≠ anyPolicy) {step : Nat} (hs : step ≤ path.length) :
    p ∈ (before path step).valid ↔ CarriedTo path p step := by
  induction step with
  | zero =>
    simp only [before, List.take_zero, run, List.mem_singleton, hp, false_iff]
    rintro ⟨j, hj, _⟩
    omega
  | succ step ih =>
    have hc : path[step]? = some path[step] := List.getElem?_eq_getElem hs
    have hle : step ≤ path.length := Nat.le_of_lt hs
    rw [valid_succ hc (hm _ (List.getElem_mem hs)), mem_narrow_of_ne hp, mem_declaredAt hc,
      mem_declaredAt hc, anyPolicy_mem_valid hm hle, ih hle, carriedTo_succ]

theorem before_length : before path path.length = run {} 0 path := by
  rw [before, List.take_length]

/-- Without mappings the result has a closed form: the policies carried to the end of the path, and
the policy for all policies where it is declared last and explicit ones are not required. -/
theorem process_unmapped {n : Nat} (hlen : path.length = n + 1)
    (hm : ∀ c ∈ path, c.policyMappings = []) :
    (process path).1.Nodup ∧
    (∀ p, p ≠ anyPolicy → (p ∈ (process path).1 ↔
      ∃ j, j ≤ n ∧ DeclaredAt path j p ∧ (j = 0 ∨ DeclaredAt path (j - 1) anyPolicy) ∧
        ∀ k, j < k → k ≤ n → DeclaredAt path k p ∨ DeclaredAt path k anyPolicy)) ∧
    (anyPolicy ∈ (process path).1 ↔
      DeclaredAt path n anyPolicy ∧ ¬ InForce explicitSkip? path n) ∧
    ((process path).2 = true ↔ InForce explicitSkip? path n) := by
  have hrequired : isActive (run {} 0 path).requireExplicit n = true ↔
      InForce explicitSkip? path n := (tracks_explicit.records path).isActive_iff n
  have hmem : ∀ p, p ∈ (process path).1 ↔ p ∈ (before path (n + 1)).valid ∧
      (p = anyPolicy → ¬ InForce explicitSkip? path n) := by
    intro p
    rw [← hrequired, ← hlen, before_length]
    simp only [process, hlen, Nat.add_sub_cancel]
    split
    · rename_i hactive
      simp [hactive]
    · rename_i hinactive
      simp [hinactive]
  refine ⟨process_nodup path, ?_, ?_, ?_⟩
  · intro p hp
    rw [hmem, mem_valid_iff_carriedTo hm hp (by omega)]
    simp only [hp, false_implies, and_true, CarriedTo, Nat.lt_succ_iff]
  · rw [hmem, anyPolicy_mem_valid hm (by omega)]
    simp
  · rw [← hrequired]
    simp only [process, hlen, Nat.add_sub_cancel]

/-- A path whose root inhibits the policy for all policies from step 2 on, and whose second
certificate requires explicit policies from step 3 on. -/
def constrainedPath : List Certificate := [
  .plain "root" "root" [.certificatePolicies [anyPolicy], .inhibitAnyPolicy 1],
  .plain "upper" "root" [.certificatePolicies ["1.2.3", anyPolicy],
    .policyConstraints (some 1) none],
  .plain "lower" "upper" [.certificatePolicies ["1.2.3", anyPolicy]],
  .plain "leaf" "lower" [.certificatePolicies [anyPolicy, "1.2.3"]]]

theorem process_unmapped_constrainedPath :
    constrainedPath.length = 3 + 1 ∧ (∀ c ∈ constrainedPath, c.policyMappings = []) ∧
    "1.2.3" ∈ (process constrainedPath).1 ∧ anyPolicy ∉ (process constrainedPath).1 := by
  have hlen : constrainedPath.length = 3 + 1 := rfl
  have hm : ∀ c ∈ constrainedPath, c.policyMappings = [] := by decide
  obtain ⟨_, hown, hany, _⟩ := process_unmapped hlen hm
  have hexplicit : InForce explicitSkip? constrainedPath 3 := by
    refine ⟨1, 1, ⟨rfl, ?_⟩, Nat.le_refl 3⟩
    intro i hi
    obtain rfl : i = 0 := by omega
    rfl
  have hdeclared : ∀ k, 0 < k → k ≤ 3 → DeclaredAt constrainedPath k "1.2.3" := by
    intro k hk hk'
    obtain rfl | rfl | rfl : k = 1 ∨ k = 2 ∨ k = 3 := by omega
    all_goals exact ⟨_, rfl, by decide, fun h => absurd h (by decide)⟩
  refine ⟨hlen, hm, ?_, fun h => (hany.mp h).2 hexplicit⟩
  refine (hown "1.2.3" (by decide)).mpr ⟨1, by omega, hdeclared 1 (by omega) (by omega), .inr ?_,
    fun k hk hk' => .inl (hdeclared k (by omega) hk')⟩
  exact ⟨_, rfl, by decide, fun _ ⟨_, _, _, hle⟩ => by omega⟩

end CertAudit.PolicyGraph
