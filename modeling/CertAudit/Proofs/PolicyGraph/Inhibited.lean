/- The policy for all policies on a path on which it is inhibited: only a mapping of the last
certificate can make it valid again. -/
import CertAudit.Operator
import CertAudit.Proofs.Context
import CertAudit.Proofs.PolicyGraph.Unmapped
namespace CertAudit.PolicyGraph

open Identifiers (anyPolicy)

/-- A mapping to a policy stands where the policy that it maps is valid, by the mappings before it
too. -/
def MappedTo (valid : PolicySet) (mappings : List PolicyMapping) (p : String) : Prop :=
  ∃ first m later, mappings = first ++ m :: later ∧ m.subjectPolicy = p ∧
    m.issuerPolicy ∈ applyMappings valid first

theorem applyMappings_concat (valid : PolicySet) (mappings : List PolicyMapping)
    (m : PolicyMapping) :
    applyMappings valid (mappings ++ [m]) =
      if (applyMappings valid mappings).contains m.issuerPolicy
      then add (applyMappings valid mappings) m.subjectPolicy else applyMappings valid mappings := by
  rw [applyMappings, List.foldl_append]
  rfl

theorem mappedTo_concat {valid : PolicySet} {mappings : List PolicyMapping} {m : PolicyMapping}
    {p : String} :
    MappedTo valid (mappings ++ [m]) p ↔ MappedTo valid mappings p ∨
      (m.subjectPolicy = p ∧ m.issuerPolicy ∈ applyMappings valid mappings) := by
  constructor
  · rintro ⟨first, n, later, heq, hsubject, hissuer⟩
    -- The mapping is the last one, or one of those before it.
    rcases List.eq_nil_or_concat later with rfl | ⟨later, k, rfl⟩
    · obtain ⟨rfl, hlast⟩ := List.append_inj' heq rfl
      cases hlast
      exact .inr ⟨hsubject, hissuer⟩
    · rw [List.concat_eq_append, ← List.cons_append, ← List.append_assoc] at heq
      exact .inl ⟨first, n, later, (List.append_inj' heq rfl).1, hsubject, hissuer⟩
  · rintro (⟨first, n, later, rfl, hsubject, hissuer⟩ | ⟨hsubject, hissuer⟩)
    · exact ⟨first, n, later ++ [m], by simp, hsubject, hissuer⟩
    · exact ⟨mappings, m, [], rfl, hsubject, hissuer⟩

theorem mem_applyMappings {valid : PolicySet} {mappings : List PolicyMapping} {p : String} :
    p ∈ applyMappings valid mappings ↔ p ∈ valid ∨ MappedTo valid mappings p := by
  -- A mapping looks at what those before it have made valid, so the last one is taken off.
  induction mappings using List.reverseRecOn with
  | nil =>
    refine ⟨.inl, ?_⟩
    rintro (h | ⟨first, m, later, heq, _⟩)
    · exact h
    · exact absurd heq.symm (by simp)
  | append_singleton mappings m ih =>
    rw [applyMappings_concat, mappedTo_concat, ← or_assoc, ← ih]
    split
    · rename_i hissuer
      rw [mem_add]
      simp [List.contains_iff_mem.mp hissuer, eq_comm]
    · rename_i hissuer
      simp [mt List.contains_iff_mem.mpr hissuer]

variable {path : List Certificate} {n : Nat} {c : Certificate}

/-- The policies that a step of a path leaves valid before its mappings are applied. -/
def narrowedAt (path : List Certificate) (step : Nat) (c : Certificate) : PolicySet :=
  narrow (before path step).valid (declaredAt (before path step) step c)

theorem valid_advance (hc : path[n]? = some c) :
    (before path (n + 1)).valid =
      if isActive (before path n).inhibitMapping n then narrowedAt path n c
      else applyMappings (narrowedAt path n c) c.policyMappings := by
  rw [before_succ hc]
  rfl

theorem mem_process (hlen : path.length = n + 1) {p : String} :
    p ∈ (process path).1 ↔
      p ∈ (before path (n + 1)).valid ∧ (p = anyPolicy → ¬ InForce explicitSkip? path n) := by
  have hrequired : isActive (run {} 0 path).requireExplicit n = true ↔
      InForce explicitSkip? path n := (tracks_explicit.records path).isActive_iff n
  rw [← hrequired, ← hlen, before_length]
  simp only [process, hlen, Nat.add_sub_cancel]
  split
  · rename_i hactive
    simp [hactive]
  · rename_i hinactive
    simp [hinactive]

/-- Where it is inhibited, the policy for all policies is valid only by a mapping of the last
certificate. -/
theorem anyPolicy_mem_process (hlen : path.length = n + 1) (hc : path[n]? = some c)
    (hinhibit : InForce Certificate.inhibitAnyPolicy? path n) :
    anyPolicy ∈ (process path).1 ↔
      ¬ InForce explicitSkip? path n ∧ ¬ InForce mappingSkip? path n ∧
        MappedTo (narrowedAt path n c) c.policyMappings anyPolicy := by
  have hmapping : isActive (before path n).inhibitMapping n = true ↔
      InForce mappingSkip? path n := tracks_mapping.isActive_take n
  have hnarrow : anyPolicy ∉ narrowedAt path n c := by
    rw [narrowedAt, anyPolicy_mem_narrow, mem_declaredAt hc]
    rintro ⟨_, _, _, hfree⟩
    exact hfree rfl hinhibit
  rw [mem_process hlen, valid_advance hc, ← hmapping]
  split
  · rename_i hactive
    simp [hactive, hnarrow]
  · rename_i hinactive
    simp only [mem_applyMappings, hnarrow, false_or, hinactive, Bool.not_eq_true, true_implies]
    simp [and_comm]

/-- The certificates of a chain from its end down to a position. -/
def pathTo (chain : List ChainEntry) (p : Nat) : List Certificate :=
  ((chain.drop p).map (·.certificate)).reverse

theorem judge_eq_of_entry {ctx : Context} {e : ChainEntry} (hentry : ctx.entry = some e)
    (hchain : ctx.chain ≠ []) (operands : List Value) :
    judge ctx operands = ((process (pathTo ctx.chain e.position)).1.contains anyPolicy ||
      if (Value.itemTexts operands).isEmpty then
        !(process (pathTo ctx.chain e.position)).1.isEmpty
      else (Value.itemTexts operands).any
        (process (pathTo ctx.chain e.position)).1.contains) := by
  have hempty : ctx.chain.isEmpty = false := List.isEmpty_eq_false_iff.mpr hchain
  simp only [judge, hentry, hempty, pathTo, Bool.false_eq_true, if_false]

theorem judge_eq {ctx : Context} {p : Nat} {e : ChainEntry} (h : ctx.Placed p e)
    (operands : List Value) :
    judge ctx operands = ((process (pathTo ctx.chain p)).1.contains anyPolicy ||
      if (Value.itemTexts operands).isEmpty then !(process (pathTo ctx.chain p)).1.isEmpty
      else (Value.itemTexts operands).any (process (pathTo ctx.chain p)).1.contains) := by
  rw [judge_eq_of_entry h.entry (List.isEmpty_eq_false_iff.mp h.chain_isEmpty), h.position]

/-- Where the policy for all policies is inhibited, it is valid just where the last certificate maps
a valid policy to it. Without such a mapping a certificate at the end of the path is accepted for
the policies that are valid and no other. -/
theorem process_inhibited (hlen : path.length = n + 1) (hc : path[n]? = some c)
    (hinhibit : InForce Certificate.inhibitAnyPolicy? path n) :
    (anyPolicy ∈ (process path).1 ↔
      ¬ InForce explicitSkip? path n ∧ ¬ InForce mappingSkip? path n ∧
        MappedTo (narrowedAt path n c) c.policyMappings anyPolicy) ∧
    ((∀ m ∈ c.policyMappings, m.subjectPolicy ≠ anyPolicy) →
      anyPolicy ∉ (process path).1 ∧
      ∀ (ctx : Context) (p : Nat) (e : ChainEntry) (target : Option Node) (operands : List Value),
        ctx.Placed p e → pathTo ctx.chain p = path →
        ∃ verdict, Operator.certificatePolicyValid.evaluate target ctx operands = .ok verdict ∧
          (verdict = true ↔ ∃ q ∈ (process path).1,
            Value.itemTexts operands = [] ∨ q ∈ Value.itemTexts operands)) := by
  have hmem := anyPolicy_mem_process hlen hc hinhibit
  refine ⟨hmem, fun hmap => ?_⟩
  have hnone : anyPolicy ∉ (process path).1 := by
    rw [hmem]
    rintro ⟨_, _, _, m, _, hmappings, hsubject, _⟩
    exact hmap m (by simp [hmappings]) hsubject
  refine ⟨hnone, ?_⟩
  rintro ctx p e target operands hplaced rfl
  refine ⟨_, rfl, ?_⟩
  rw [judge_eq hplaced]
  cases hoperands : Value.itemTexts operands with
  | nil => simp [hnone, List.eq_nil_iff_forall_not_mem]
  | cons q rest => simp [hnone, and_comm]

/-- A certificate with one policy that it maps to another, below a root that inhibits the policy
for all policies at once. -/
def inhibitedChain (mapped : String) : List ChainEntry := [
  { certificate := .plain "leaf" "root" [.certificatePolicies ["1.2.3"],
      .policyMappings [{ issuerPolicy := "1.2.3", subjectPolicy := mapped }]] },
  { certificate := .plain "root" "root" [.certificatePolicies [anyPolicy], .inhibitAnyPolicy 0]
    position := 1
    role := .root }]

theorem inhibitedChain_inForce (mapped : String) :
    InForce Certificate.inhibitAnyPolicy? (pathTo (inhibitedChain mapped) 0) 1 := by
  refine ⟨0, 0, ⟨rfl, ?_⟩, Nat.le_refl 1⟩
  intro i hi
  exact absurd hi (Nat.not_lt_zero i)

theorem inhibitedChain_placed (mapped : String) :
    ∃ (ctx : Context) (e : ChainEntry), ctx.chain = inhibitedChain mapped ∧ ctx.Placed 0 e := by
  obtain ⟨e, he⟩ : ∃ e, (inhibitedChain mapped)[0]? = some e := ⟨_, rfl⟩
  have hassemble : Chain.assemble ((inhibitedChain mapped).map ChainEntry.unplaced) =
      .ok (inhibitedChain mapped, []) := rfl
  exact ⟨_, e, rfl, Audit.placed_of_assemble hassemble he { seconds := 0 } [] []⟩

/-- A policy mapped to another is accepted under both names, and no other policy is. -/
theorem process_inhibited_inhibitedChain :
    ∃ ctx : Context, ctx.chain = inhibitedChain "4.5.6" ∧
      (∃ e, ctx.Placed 0 e) ∧ anyPolicy ∉ (process (pathTo ctx.chain 0)).1 ∧
      Operator.certificatePolicyValid.evaluate none ctx [.string "4.5.6"] = .ok true ∧
      Operator.certificatePolicyValid.evaluate none ctx [.string "7.8.9"] = .ok false := by
  obtain ⟨ctx, e, hchain, hplaced⟩ := inhibitedChain_placed "4.5.6"
  have hlen : (pathTo (inhibitedChain "4.5.6") 0).length = 1 + 1 := rfl
  obtain ⟨_, hunmapped⟩ := process_inhibited hlen rfl (inhibitedChain_inForce "4.5.6")
  obtain ⟨hnone, hverdict⟩ := hunmapped (by decide)
  have hpath : pathTo ctx.chain 0 = pathTo (inhibitedChain "4.5.6") 0 := by rw [hchain]
  obtain ⟨_, haccept, hmapped⟩ := hverdict ctx 0 e none [.string "4.5.6"] hplaced hpath
  obtain ⟨_, hreject, hother⟩ := hverdict ctx 0 e none [.string "7.8.9"] hplaced hpath
  refine ⟨ctx, hchain, ⟨e, hplaced⟩, by rwa [hpath], ?_, ?_⟩
  · rw [haccept, hmapped.mpr ⟨"4.5.6", by decide, .inr (by decide)⟩]
  · rw [hreject, Bool.eq_false_iff.mpr (mt hother.mp (by decide))]

/-- A mapping to the policy for all policies makes it valid although it is inhibited, and every
policy is accepted. -/
theorem anyPolicy_mem_process_inhibitedChain :
    ∃ ctx : Context, ctx.chain = inhibitedChain anyPolicy ∧ (∃ e, ctx.Placed 0 e) ∧
      InForce Certificate.inhibitAnyPolicy? (pathTo ctx.chain 0) 1 ∧
      anyPolicy ∈ (process (pathTo ctx.chain 0)).1 ∧
      Operator.certificatePolicyValid.evaluate none ctx [.string "7.8.9"] = .ok true := by
  obtain ⟨ctx, e, hchain, hplaced⟩ := inhibitedChain_placed anyPolicy
  have hmem : anyPolicy ∈ (process (pathTo (inhibitedChain anyPolicy) 0)).1 := by decide
  refine ⟨ctx, hchain, ⟨e, hplaced⟩, ?_, ?_, ?_⟩
  · rw [hchain]
    exact inhibitedChain_inForce anyPolicy
  · rwa [hchain]
  · change Except.ok (judge ctx [.string "7.8.9"]) = .ok true
    rw [judge_eq hplaced, hchain, List.contains_iff_mem.mpr hmem, Bool.true_or]

end CertAudit.PolicyGraph
