/- Paths whose certificates declare their mappings in another order: the demand for explicit
policies stays, and so do the valid policies where no two mappings that chain change places. -/
import CertAudit.Proofs.PolicyGraph.Inhibited
import CertAudit.Proofs.PolicyGraph.Mapping
namespace CertAudit.PolicyGraph

open Identifiers (anyPolicy)

/-- Two certificates declare the same policies and constraints, and their mappings in some order. -/
structure MappedAlike (c d : Certificate) : Prop where
  policies : d.policies? = c.policies?
  constraints : d.policyConstraints? = c.policyConstraints?
  inhibitAny : d.inhibitAnyPolicy? = c.inhibitAnyPolicy?
  mappings : d.policyMappings.Perm c.policyMappings

/-- Where mappings count, the certificates of two paths keep the order of those that chain. -/
def KeepsOrder (path path' : List Certificate) : Prop :=
  ∀ k c d, path[k]? = some c → path'[k]? = some d →
    InForce mappingSkip? path k ∨ KeepsChains c.policyMappings d.policyMappings

variable {path path' : List Certificate} {declares : Certificate → Option Nat} {step : Nat}
  {valid valid' declared declared' : PolicySet} {p : String} {c d : Certificate}

theorem MappedAlike.explicitSkip?_eq (h : MappedAlike c d) : explicitSkip? d = explicitSkip? c :=
  congrArg (·.bind Prod.fst) h.constraints

theorem MappedAlike.mappingSkip?_eq (h : MappedAlike c d) : mappingSkip? d = mappingSkip? c :=
  congrArg (·.bind Prod.snd) h.constraints

/-- What certificates declare alike is the same at each step. -/
theorem bind_getElem?_eq {α : Type} {f : Certificate → Option α}
    (h : List.Forall₂ MappedAlike path path') (hf : ∀ {c d}, MappedAlike c d → f d = f c)
    (step : Nat) : path'[step]?.bind f = path[step]?.bind f := by
  induction h generalizing step with
  | nil => rfl
  | cons hfirst _ ih =>
    cases step with
    | zero => exact hf hfirst
    | succ step => simpa only [List.getElem?_cons_succ] using ih step

theorem FirstDeclared.of_eq {s v : Nat}
    (heq : ∀ i : Nat, path'[i]?.bind declares = path[i]?.bind declares)
    (h : FirstDeclared declares path s v) : FirstDeclared declares path' s v :=
  ⟨(heq s).trans h.here, fun i hi => (heq i).trans (h.none_above i hi)⟩

theorem inForce_congr (h : List.Forall₂ MappedAlike path path')
    (hf : ∀ {c d}, MappedAlike c d → declares d = declares c) :
    InForce declares path' step ↔ InForce declares path step := by
  have heq := bind_getElem?_eq h hf
  constructor
  · rintro ⟨s, v, hs, hle⟩
    exact ⟨s, v, hs.of_eq fun i => (heq i).symm, hle⟩
  · rintro ⟨s, v, hs, hle⟩
    exact ⟨s, v, hs.of_eq heq, hle⟩

theorem declaredAt_iff : DeclaredAt path step p ↔
    p ∈ (path[step]?.bind Certificate.policies?).getD [] ∧
      (p = anyPolicy → ¬ InForce Certificate.inhibitAnyPolicy? path step) := by
  cases h : path[step]? with
  | none => simp [DeclaredAt, h]
  | some c => simp [DeclaredAt, h]

theorem declaredAt_congr (h : List.Forall₂ MappedAlike path path') :
    DeclaredAt path' step p ↔ DeclaredAt path step p := by
  rw [declaredAt_iff, declaredAt_iff, bind_getElem?_eq h MappedAlike.policies,
    inForce_congr h MappedAlike.inhibitAny]

theorem mem_narrow_congr (hvalid : ∀ p, p ∈ valid' ↔ p ∈ valid)
    (hdeclared : ∀ p, p ∈ declared' ↔ p ∈ declared) (p : String) :
    p ∈ narrow valid' declared' ↔ p ∈ narrow valid declared := by
  by_cases hp : p = anyPolicy
  · rw [hp, anyPolicy_mem_narrow, anyPolicy_mem_narrow, hdeclared]
  · rw [mem_narrow_of_ne hp, mem_narrow_of_ne hp, hvalid, hvalid, hdeclared, hdeclared]

/-- One step leaves the same policies valid on both paths. -/
theorem mem_valid_advance_congr (h : List.Forall₂ MappedAlike path path')
    (hc : path[step]? = some c) (hd : path'[step]? = some d)
    (hkeeps : InForce mappingSkip? path step ∨ KeepsChains c.policyMappings d.policyMappings)
    (hvalid : ∀ p, p ∈ (before path' step).valid ↔ p ∈ (before path step).valid) (p : String) :
    p ∈ (before path' (step + 1)).valid ↔ p ∈ (before path (step + 1)).valid := by
  have hnarrowed : ∀ q, q ∈ narrowedAt path' step d ↔ q ∈ narrowedAt path step c := by
    refine mem_narrow_congr hvalid ?_
    intro q
    rw [mem_declaredAt hd, mem_declaredAt hc, declaredAt_congr h]
  have hactive : isActive (before path' step).inhibitMapping step =
      isActive (before path step).inhibitMapping step := by
    rw [Bool.eq_iff_iff]
    exact (tracks_mapping.isActive_take step).trans
      ((inForce_congr h MappedAlike.mappingSkip?_eq).trans
        (tracks_mapping.isActive_take step).symm)
  rw [valid_advance hd, valid_advance hc, hactive]
  split
  · exact hnarrowed p
  · rename_i hinactive
    have hchains := hkeeps.resolve_left (mt (tracks_mapping.isActive_take step).mpr hinactive)
    exact (mem_applyMappings_congr hnarrowed _ p).trans hchains.mem_applyMappings

theorem mem_valid_congr (h : List.Forall₂ MappedAlike path path') (hkeeps : KeepsOrder path path')
    (hstep : step ≤ path.length) (p : String) :
    p ∈ (before path' step).valid ↔ p ∈ (before path step).valid := by
  induction step generalizing p with
  | zero => rfl
  | succ step ih =>
    have hc : path[step]? = some path[step] := List.getElem?_eq_getElem hstep
    have hd : path'[step]? = some (path'.get ⟨step, h.length_eq ▸ hstep⟩) :=
      List.getElem?_eq_getElem _
    exact mem_valid_advance_congr h hc hd (hkeeps step _ _ hc hd) (ih (Nat.le_of_lt hstep)) p

theorem process_snd_eq_true_iff (path : List Certificate) :
    (process path).2 = true ↔ InForce explicitSkip? path (path.length - 1) :=
  (tracks_explicit.records path).isActive_iff _

theorem process_snd_congr (h : List.Forall₂ MappedAlike path path') :
    (process path').2 = (process path).2 := by
  rw [Bool.eq_iff_iff, process_snd_eq_true_iff, process_snd_eq_true_iff, ← h.length_eq]
  exact inForce_congr h MappedAlike.explicitSkip?_eq

theorem process_fst_perm (h : List.Forall₂ MappedAlike path path')
    (hkeeps : KeepsOrder path path') : (process path').1.Perm (process path).1 := by
  rw [List.perm_ext_iff_of_nodup (process_nodup path') (process_nodup path)]
  intro p
  cases hlen : path.length with
  | zero =>
    rw [List.eq_nil_of_length_eq_zero hlen] at h ⊢
    cases h
    rfl
  | succ n =>
    rw [mem_process (h.length_eq.symm.trans hlen), mem_process hlen,
      mem_valid_congr h hkeeps (Nat.le_of_eq hlen.symm),
      inForce_congr h MappedAlike.explicitSkip?_eq]

theorem judge_congr_of_perm {ctx ctx' : Context} {n n' : Nat} {e e' : ChainEntry}
    (h : ctx.Placed n e) (h' : ctx'.Placed n' e')
    (hperm : (process (pathTo ctx'.chain n')).1.Perm (process (pathTo ctx.chain n)).1)
    (operands : List Value) : judge ctx' operands = judge ctx operands := by
  have hcontains : (process (pathTo ctx'.chain n')).1.contains =
      (process (pathTo ctx.chain n)).1.contains := by
    funext q
    exact hperm.contains_eq
  rw [judge_eq h', judge_eq h, hcontains, hperm.isEmpty_eq]

/-- A root with one policy and some mappings. -/
def mappingRoot (policy : String) (mappings : List PolicyMapping) : Certificate :=
  .plain "root" "root" [.certificatePolicies [policy], .policyMappings mappings]

theorem process_mappingRoot (policy : String) (mappings : List PolicyMapping) :
    (process [mappingRoot policy mappings]).1 = applyMappings [policy] mappings := by
  have hdeclared : declaredAt {} 0 (mappingRoot policy mappings) = [policy] := by
    simp [declaredAt, isActive, mappingRoot, Certificate.plain, Certificate.policies?,
      Certificate.firstValue, List.eraseDups_cons]
  have hvalid : (run {} 0 [mappingRoot policy mappings]).valid =
      applyMappings [policy] mappings := by
    simp only [run, advance, hdeclared]
    rfl
  exact hvalid

theorem mappingRoot_mappedAlike (policy : String) {ms ns : List PolicyMapping} (h : ns.Perm ms) :
    MappedAlike (mappingRoot policy ms) (mappingRoot policy ns) :=
  ⟨rfl, rfl, rfl, h⟩

/-- Paths that differ in the order of mappings demand explicit policies alike. Where two mappings
that chain keep their order, or mappings are inhibited, the same policies are valid and all verdicts
are the same. Two mappings that chain cannot change places. -/
theorem process_rearranged (h : List.Forall₂ MappedAlike path path') :
    (process path').2 = (process path).2 ∧
    (KeepsOrder path path' →
      (process path').1.Perm (process path).1 ∧
      ∀ (ctx ctx' : Context) (n n' : Nat) (e e' : ChainEntry) (target : Option Node)
        (operands : List Value), ctx.Placed n e → ctx'.Placed n' e' →
        pathTo ctx.chain n = path → pathTo ctx'.chain n' = path' →
        Operator.certificatePolicyValid.evaluate target ctx' operands =
          Operator.certificatePolicyValid.evaluate target ctx operands) ∧
    ∀ a b, Chains a b →
      b.subjectPolicy ∈ (process [mappingRoot a.issuerPolicy [a, b]]).1 ∧
      b.subjectPolicy ∉ (process [mappingRoot a.issuerPolicy [b, a]]).1 := by
  refine ⟨process_snd_congr h, fun hkeeps => ⟨process_fst_perm h hkeeps, ?_⟩, ?_⟩
  · rintro ctx ctx' n n' e e' target operands hplaced hplaced' rfl rfl
    exact congrArg Except.ok
      (judge_congr_of_perm hplaced hplaced' (process_fst_perm h hkeeps) operands)
  · intro a b hchains
    rw [process_mappingRoot, process_mappingRoot]
    exact hchains.mem_applyMappings

/-- A root that maps its one policy, in a given order of its mappings. -/
def mappingChain (mappings : List PolicyMapping) : List ChainEntry := [
  { certificate := mappingRoot "1.2.3" mappings, role := .root }]

/-- The policy is mapped to a second one. -/
def onward : PolicyMapping := { issuerPolicy := "1.2.3", subjectPolicy := "4.5.6" }

/-- The second policy is mapped to a third one. -/
def further : PolicyMapping := { issuerPolicy := "4.5.6", subjectPolicy := "7.8.9" }

/-- The policy is mapped to another one. -/
def aside : PolicyMapping := { issuerPolicy := "1.2.3", subjectPolicy := "2.2.2" }

theorem mappingChain_placed (mappings : List PolicyMapping) :
    ∃ (ctx : Context) (e : ChainEntry), ctx.chain = mappingChain mappings ∧ ctx.Placed 0 e := by
  have hassemble : Chain.assemble ((mappingChain mappings).map ChainEntry.unplaced) =
      .ok (mappingChain mappings, []) := rfl
  exact ⟨_, _, rfl, Audit.placed_of_assemble hassemble rfl { seconds := 0 } [] []⟩

/-- One mapping may change places with two that chain: the same policies stay valid and accepted. -/
theorem process_rearranged_mappingChain :
    KeepsChains [aside, onward, further] [onward, further, aside] ∧
    ∃ ctx ctx' : Context, ctx.chain = mappingChain [aside, onward, further] ∧
      ctx'.chain = mappingChain [onward, further, aside] ∧ (∃ e, ctx.Placed 0 e) ∧
      (∃ e, ctx'.Placed 0 e) ∧
      (process (pathTo ctx'.chain 0)).1.Perm (process (pathTo ctx.chain 0)).1 ∧
      Operator.certificatePolicyValid.evaluate none ctx' [.string "7.8.9"] =
        Operator.certificatePolicyValid.evaluate none ctx [.string "7.8.9"] := by
  have hkeeps : KeepsChains [aside, onward, further] [onward, further, aside] := by
    have hnot : aside ∉ [onward, further] := by decide
    refine keepsChains_middle ?_ hnot []
    intro m hm
    rcases List.mem_pair.mp hm with rfl | rfl
    · exact ⟨fun h => absurd h.meets (by decide), fun h => absurd h.meets (by decide)⟩
    · exact ⟨fun h => absurd h.meets (by decide), fun h => absurd h.meets (by decide)⟩
  obtain ⟨ctx, e, hchain, hplaced⟩ := mappingChain_placed [aside, onward, further]
  obtain ⟨ctx', e', hchain', hplaced'⟩ := mappingChain_placed [onward, further, aside]
  have halike : List.Forall₂ MappedAlike (pathTo ctx.chain 0) (pathTo ctx'.chain 0) := by
    rw [hchain, hchain']
    exact .cons (mappingRoot_mappedAlike "1.2.3" hkeeps.perm) .nil
  have horder : KeepsOrder (pathTo ctx.chain 0) (pathTo ctx'.chain 0) := by
    rw [hchain, hchain']
    intro k c d hc hd
    cases k with
    | zero =>
      cases hc
      cases hd
      exact .inr hkeeps
    | succ k => cases hc
  obtain ⟨_, hsame, _⟩ := process_rearranged halike
  obtain ⟨hperm, hverdict⟩ := hsame horder
  exact ⟨hkeeps, ctx, ctx', hchain, hchain', ⟨e, hplaced⟩, ⟨e', hplaced'⟩, hperm,
    hverdict ctx ctx' 0 0 e e' none _ hplaced hplaced' rfl rfl⟩

/-- Two mappings that chain change places: a policy that was accepted is no longer. -/
theorem process_swapped_mappingChain :
    ∃ ctx ctx' : Context, ctx.chain = mappingChain [onward, further] ∧
      ctx'.chain = mappingChain [further, onward] ∧ (∃ e, ctx.Placed 0 e) ∧
      (∃ e, ctx'.Placed 0 e) ∧ [further, onward].Perm [onward, further] ∧
      "7.8.9" ∈ (process (pathTo ctx.chain 0)).1 ∧
      "7.8.9" ∉ (process (pathTo ctx'.chain 0)).1 ∧
      Operator.certificatePolicyValid.evaluate none ctx [.string "7.8.9"] = .ok true ∧
      Operator.certificatePolicyValid.evaluate none ctx' [.string "7.8.9"] = .ok false := by
  obtain ⟨ctx, e, hchain, hplaced⟩ := mappingChain_placed [onward, further]
  obtain ⟨ctx', e', hchain', hplaced'⟩ := mappingChain_placed [further, onward]
  refine ⟨ctx, ctx', hchain, hchain', ⟨e, hplaced⟩, ⟨e', hplaced'⟩, List.Perm.swap _ _ _, ?_, ?_,
    ?_, ?_⟩
  · rw [hchain]
    decide
  · rw [hchain']
    decide
  · change Except.ok (judge ctx [.string "7.8.9"]) = .ok true
    rw [judge_eq hplaced, hchain]
    decide
  · change Except.ok (judge ctx' [.string "7.8.9"]) = .ok false
    rw [judge_eq hplaced', hchain']
    decide

end CertAudit.PolicyGraph
