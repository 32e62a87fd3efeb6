/- Paths whose last certificate declares the policy for all policies, where it is neither inhibited
nor barred by a demand for explicit policies: whatever is asked for is accepted. -/
import CertAudit.Proofs.PolicyGraph.Inhibited
namespace CertAudit.PolicyGraph

open Identifiers (anyPolicy)

variable {path : List Certificate} {n : Nat} {c : Certificate} {ctx : Context} {e : ChainEntry}

/-- What a step narrows to, its mappings leave valid. -/
theorem mem_valid_of_mem_narrowedAt (hc : path[n]? = some c) {p : String}
    (h : p ∈ narrowedAt path n c) : p ∈ (before path (n + 1)).valid := by
  rw [valid_advance hc]
  split
  · exact h
  · exact mem_applyMappings.mpr (.inl h)

/-- The policy for all policies stays valid at a step that declares it, whatever is valid above. -/
theorem anyPolicy_mem_valid_of_declaredAt (hc : path[n]? = some c)
    (h : DeclaredAt path n anyPolicy) : anyPolicy ∈ (before path (n + 1)).valid := by
  apply mem_valid_of_mem_narrowedAt hc
  rw [narrowedAt, anyPolicy_mem_narrow, mem_declaredAt hc]
  exact h

theorem judge_of_anyPolicy_mem (hentry : ctx.entry = some e)
    (h : anyPolicy ∈ (process (pathTo ctx.chain e.position)).1) (hchain : ctx.chain ≠ [])
    (operands : List Value) : judge ctx operands = true := by
  rw [judge_eq_of_entry hentry hchain, List.contains_iff_mem.mpr h, Bool.true_or]

theorem chain_ne_nil_of_length_pathTo (hlen : (pathTo ctx.chain e.position).length = n + 1) :
    ctx.chain ≠ [] := by
  intro hnil
  rw [hnil, pathTo, List.drop_nil] at hlen
  cases hlen

/-- The last certificate of a path declares the policy for all policies, which is not inhibited
there, and explicit policies are not required there: it is accepted for all operands, whatever the
certificates above it declare. -/
theorem process_wildcard (hlen : path.length = n + 1) (hc : path[n]? = some c)
    (hdeclares : anyPolicy ∈ c.policies?.getD [])
    (hany : ¬ InForce Certificate.inhibitAnyPolicy? path n)
    (hexplicit : ¬ InForce explicitSkip? path n) :
    anyPolicy ∈ (process path).1 ∧
      ∀ (ctx : Context) (e : ChainEntry) (target : Option Node) (operands : List Value),
        ctx.entry = some e → pathTo ctx.chain e.position = path →
        Operator.certificatePolicyValid.evaluate target ctx operands = .ok true := by
  have hdeclared : DeclaredAt path n anyPolicy := ⟨c, hc, hdeclares, fun _ => hany⟩
  have hmem : anyPolicy ∈ (process path).1 :=
    (mem_process hlen).mpr ⟨anyPolicy_mem_valid_of_declaredAt hc hdeclared, fun _ => hexplicit⟩
  refine ⟨hmem, ?_⟩
  rintro ctx e target operands hentry rfl
  exact congrArg Except.ok
    (judge_of_anyPolicy_mem hentry hmem (chain_ne_nil_of_length_pathTo hlen) operands)

/-- A certificate with the policy for all policies, below one that declares none and a root whose
constraints come into force one step too late. -/
def wildcardChain : List ChainEntry := [
  { certificate := .plain "leaf" "upper" [.certificatePolicies [anyPolicy, "1.2.3"],
      .policyMappings [{ issuerPolicy := "1.2.3", subjectPolicy := "4.5.6" }]] },
  { certificate := .plain "upper" "root"
      [.policyMappings [{ issuerPolicy := anyPolicy, subjectPolicy := "4.5.6" }]]
    position := 1
    role := .intermediate },
  { certificate := .plain "root" "root" [.certificatePolicies ["2.2.2"],
      .policyConstraints (some 2) none, .inhibitAnyPolicy 2]
    position := 2
    role := .root }]

theorem wildcardChain_not_inForce {declares : Certificate → Option Nat} {s v : Nat}
    (h : FirstDeclared declares (pathTo wildcardChain 0) s v) (hlate : 2 < s + 1 + v) :
    ¬ InForce declares (pathTo wildcardChain 0) 2 := by
  rintro ⟨s', v', h', hle⟩
  obtain ⟨rfl, rfl⟩ := h.unique h'
  omega

theorem process_wildcard_wildcardChain :
    anyPolicy ∈ (process (pathTo wildcardChain 0)).1 ∧
      "7.8.9" ∉ (process (pathTo wildcardChain 0)).1 ∧
      ∃ ctx : Context, ctx.chain = wildcardChain ∧
        Operator.certificatePolicyValid.evaluate none ctx [.string "7.8.9"] = .ok true := by
  have hlen : (pathTo wildcardChain 0).length = 2 + 1 := rfl
  have hany : FirstDeclared Certificate.inhibitAnyPolicy? (pathTo wildcardChain 0) 0 2 :=
    ⟨rfl, fun i hi => absurd hi (Nat.not_lt_zero i)⟩
  have hexplicit : FirstDeclared explicitSkip? (pathTo wildcardChain 0) 0 2 :=
    ⟨rfl, fun i hi => absurd hi (Nat.not_lt_zero i)⟩
  obtain ⟨hmem, haccept⟩ := process_wildcard hlen rfl (by decide)
    (wildcardChain_not_inForce hany (by omega)) (wildcardChain_not_inForce hexplicit (by omega))
  obtain ⟨e, he⟩ : ∃ e, wildcardChain[0]? = some e ∧ e.position = 0 := ⟨_, rfl, rfl⟩
  refine ⟨hmem, by decide, Audit.contextOf { seconds := 0 } [] [] wildcardChain e, rfl, ?_⟩
  exact haccept _ e none _ rfl (congrArg (pathTo wildcardChain) he.2)

end CertAudit.PolicyGraph
