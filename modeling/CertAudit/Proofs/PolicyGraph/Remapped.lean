/- Paths that differ in mappings which are inhibited: the state is the same at every step, and so are
the valid policies and the demand for explicit ones at the end. -/
import CertAudit.Proofs.PolicyGraph.Unmapped
namespace CertAudit.PolicyGraph

/-- Two certificates declare the same policies and constraints. Their mappings may differ. -/
structure DeclareAlike (c d : Certificate) : Prop where
  policies : d.policies? = c.policies?
  constraints : d.policyConstraints? = c.policyConstraints?
  inhibitAny : d.inhibitAnyPolicy? = c.inhibitAnyPolicy?

def declaresMappings (e : Extension) : Bool :=
  match e.value with
  | .policyMappings _ => true
  | _ => false

def MappedSameBefore (path path' : List Certificate) (step : Nat) : Prop :=
  ∀ k c d, k < step → path[k]? = some c → path'[k]? = some d →
    d.policyMappings = c.policyMappings

variable {path path' : List Certificate} {s v step : Nat} {c d : Certificate} {state : State}

theorem findSome?_others {α : Type} {f : ExtensionValue → Option α}
    (hf : ∀ ms, f (.policyMappings ms) = none) (es : List Extension) :
    (es.filter fun e => !declaresMappings e).findSome? (fun e => f e.value) =
      es.findSome? fun e => f e.value := by
  induction es with
  | nil => rfl
  | cons e es ih =>
    by_cases he : declaresMappings e = true
    · have hnone : f e.value = none := by
        unfold declaresMappings at he
        split at he
        · rename_i ms hvalue
          rw [hvalue, hf]
        · cases he
      rw [List.filter_cons_of_neg (by simp [he]), ih, List.findSome?_cons, hnone]
    · rw [List.filter_cons_of_pos (by simpa using he), List.findSome?_cons, List.findSome?_cons, ih]

/-- Certificates that differ only in extensions with mappings declare the same otherwise. -/
theorem DeclareAlike.of_others
    (h : (d.extensions.filter fun e => !declaresMappings e) =
      c.extensions.filter fun e => !declaresMappings e) : DeclareAlike c d := by
  have hsame : ∀ {α : Type} {f : ExtensionValue → Option α},
      (∀ ms, f (.policyMappings ms) = none) → d.firstValue f = c.firstValue f := by
    intro α f hf
    rw [Certificate.firstValue, Certificate.firstValue, ← findSome?_others hf, h,
      findSome?_others hf]
  exact ⟨hsame fun _ => rfl, hsame fun _ => rfl, hsame fun _ => rfl⟩

/-- One step does not see mappings that are inhibited. -/
theorem advance_congr (h : DeclareAlike c d)
    (hmappings : isActive state.inhibitMapping step = true ∨
      d.policyMappings = c.policyMappings) :
    advance state step d = advance state step c := by
  have hdeclared : declaredAt state step d = declaredAt state step c := by
    rw [declaredAt, h.policies, declaredAt]
  simp only [advance, hdeclared, h.constraints, h.inhibitAny]
  rcases hmappings with hactive | hsame
  · simp only [hactive, if_true]
  · rw [hsame]

/-- The state is the same at every step: before the threshold the mappings are, and from it on they
do not count. -/
theorem before_congr (h : List.Forall₂ DeclareAlike path path')
    (hfirst : FirstDeclared mappingSkip? path s v)
    (hsame : MappedSameBefore path path' (s + 1 + v)) (hstep : step ≤ path.length) :
    before path' step = before path step := by
  induction step with
  | zero => rfl
  | succ step ih =>
    have hstep' : step < path'.length := h.length_eq ▸ hstep
    have hc : path[step]? = some path[step] := List.getElem?_eq_getElem hstep
    have hd : path'[step]? = some path'[step] := List.getElem?_eq_getElem hstep'
    rw [before_succ hd, before_succ hc, ih (Nat.le_of_lt hstep)]
    apply advance_congr (h.get hstep hstep')
    rcases Nat.lt_or_ge step (s + 1 + v) with hlt | hge
    · exact .inr (hsame step _ _ hlt hc hd)
    · exact .inl ((tracks_mapping.isActive_take step).mpr ⟨s, v, hfirst, hge⟩)

/-- Two paths differ only in the mappings of certificates at or after the step from which on they
are inhibited: the valid policies and the demand for explicit ones are the same. -/
theorem process_remapped (h : List.Forall₂ DeclareAlike path path')
    (hfirst : FirstDeclared mappingSkip? path s v)
    (hsame : MappedSameBefore path path' (s + 1 + v)) : process path' = process path := by
  have hrun : run {} 0 path' = run {} 0 path := by
    have hbefore := before_congr h hfirst hsame (Nat.le_refl path.length)
    rw [h.length_eq, before_length, ← h.length_eq, before_length] at hbefore
    exact hbefore
  simp only [process, hrun, h.length_eq]

/-- A root that inhibits mappings two steps below it, a certificate that maps its policy, and one
with some mappings. -/
def lateMappings (mappings : List PolicyMapping) : List Certificate := [
  .plain "root" "root" [.certificatePolicies ["1.2.3"], .policyConstraints none (some 1)],
  .plain "upper" "root" [.policyMappings [{ issuerPolicy := "1.2.3", subjectPolicy := "4.5.6" }],
    .certificatePolicies ["1.2.3"]],
  .plain "leaf" "upper" [.certificatePolicies ["4.5.6"], .policyMappings mappings]]

/-- The last certificate would map a policy further, but no longer may. -/
theorem process_remapped_lateMappings :
    (process (lateMappings [{ issuerPolicy := "4.5.6", subjectPolicy := "7.8.9" }])) =
        process (lateMappings []) ∧
      (process (lateMappings [])).1 = ["4.5.6"] := by
  have hfirst : FirstDeclared mappingSkip? (lateMappings []) 0 1 :=
    ⟨rfl, fun i hi => absurd hi (Nat.not_lt_zero i)⟩
  refine ⟨process_remapped ?_ hfirst ?_, by decide⟩
  · exact .cons (.of_others rfl) (.cons (.of_others rfl) (.cons (.of_others rfl) .nil))
  · intro k c d hk hc hd
    obtain rfl | rfl : k = 0 ∨ k = 1 := by omega
    all_goals
      cases hc
      cases hd
      rfl

end CertAudit.PolicyGraph
