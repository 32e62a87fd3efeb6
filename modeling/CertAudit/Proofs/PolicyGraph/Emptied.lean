/- Paths with a certificate that declares no policies: below it nothing is valid until the policy
for all policies is declared again, and from there on the way down starts anew. -/
import CertAudit.Proofs.PolicyGraph.Inhibited
import CertAudit.Proofs.PolicyGraph.Mapping
namespace CertAudit.PolicyGraph

open Identifiers (anyPolicy)

/-- The policy for all policies is not declared at the steps between two. -/
def ClosedBetween (path : List Certificate) (first last : Nat) : Prop :=
  ∀ i, first < i → i < last → ¬ DeclaredAt path i anyPolicy

/-- What the policy for all policies makes valid by the mappings of a certificate, at a step. -/
def reopenedAt (path : List Certificate) (step : Nat) (c : Certificate) : PolicySet :=
  if isActive (before path step).inhibitMapping step then [anyPolicy]
  else applyMappings [anyPolicy] c.policyMappings

variable {path : List Certificate} {k j n : Nat} {c d : Certificate} {p : String}
  {mappings : List PolicyMapping}

theorem narrow_nil_of_mem {declared : PolicySet} (h : anyPolicy ∈ declared) :
    narrow [] declared = [anyPolicy] := by
  have hne : declared ≠ [] := List.ne_nil_of_mem h
  simp [narrow, intersect, add, hne, h]

theorem narrow_nil_of_not_mem {declared : PolicySet} (h : anyPolicy ∉ declared) :
    narrow [] declared = [] := by
  simp [narrow, intersect, h]

theorem applyMappings_nil (mappings : List PolicyMapping) : applyMappings [] mappings = [] := by
  induction mappings with
  | nil => rfl
  | cons m mappings ih => simpa [applyMappings] using ih

theorem valid_eq_nil_of_undeclared (hc : path[k]? = some c) (hnone : c.policies?.getD [] = []) :
    (before path (k + 1)).valid = [] := by
  have hnarrowed : narrowedAt path k c = [] := by
    simp [narrowedAt, declaredAt, hnone, narrow]
  rw [valid_advance hc, hnarrowed, applyMappings_nil, ite_self]

/-- Nothing is valid before a step, and the policy for all policies is not declared there: nothing
is valid after it. -/
theorem valid_succ_eq_nil (hvalid : (before path j).valid = []) (hd : path[j]? = some d)
    (hclosed : ¬ DeclaredAt path j anyPolicy) : (before path (j + 1)).valid = [] := by
  have hnot : anyPolicy ∉ declaredAt (before path j) j d := mt (mem_declaredAt hd).mp hclosed
  rw [valid_advance hd, narrowedAt, hvalid, narrow_nil_of_not_mem hnot, applyMappings_nil, ite_self]

theorem valid_succ_eq_reopenedAt (hvalid : (before path j).valid = []) (hd : path[j]? = some d)
    (hopen : DeclaredAt path j anyPolicy) : (before path (j + 1)).valid = reopenedAt path j d := by
  have hmem : anyPolicy ∈ declaredAt (before path j) j d := (mem_declaredAt hd).mpr hopen
  rw [valid_advance hd, narrowedAt, hvalid, narrow_nil_of_mem hmem, reopenedAt]

theorem valid_eq_nil_of_closed (hc : path[k]? = some c) (hnone : c.policies?.getD [] = [])
    (hkj : k < j) (hj : j ≤ path.length) (hclosed : ClosedBetween path k j) :
    (before path j).valid = [] := by
  induction j, hkj using Nat.le_induction with
  | base => exact valid_eq_nil_of_undeclared hc hnone
  | succ j hkj ih =>
    have hd : path[j]? = some path[j] := List.getElem?_eq_getElem hj
    refine valid_succ_eq_nil (ih (Nat.le_of_lt hj) ?_) hd (hclosed j hkj (Nat.lt_succ_self j))
    exact fun i hki hij => hclosed i hki (Nat.lt_succ_of_lt hij)

theorem eq_anyPolicy_of_mem_applyMappings {valid : PolicySet} (hvalid : ∀ p ∈ valid, p = anyPolicy)
    (hmappings : ∀ m ∈ mappings, m.issuerPolicy = anyPolicy → m.subjectPolicy = anyPolicy) :
    ∀ p ∈ applyMappings valid mappings, p = anyPolicy := by
  induction mappings generalizing valid with
  | nil => exact hvalid
  | cons m mappings ih =>
    rw [applyMappings_cons]
    refine ih ?_ fun m' hm' => hmappings m' (List.mem_cons_of_mem m hm')
    intro p hp
    rcases mem_applyMappings_singleton.mp hp with hp | ⟨hissuer, rfl⟩
    · exact hvalid p hp
    · exact hmappings m List.mem_cons_self (hvalid _ hissuer)

/-- From the policy for all policies alone, mappings reach another one just where they map it to
another one. -/
theorem exists_mem_applyMappings_anyPolicy :
    (∃ p ∈ applyMappings [anyPolicy] mappings, p ≠ anyPolicy) ↔
      ∃ m ∈ mappings, m.issuerPolicy = anyPolicy ∧ m.subjectPolicy ≠ anyPolicy := by
  constructor
  · rintro ⟨p, hp, hne⟩
    by_contra hnone
    push Not at hnone
    exact hne (eq_anyPolicy_of_mem_applyMappings (by simp) hnone p hp)
  · rintro ⟨m, hm, hissuer, hsubject⟩
    obtain ⟨first, later, hsplit⟩ := List.append_of_mem hm
    have hderived : m.subjectPolicy ∈ applyMappings [anyPolicy] mappings := by
      refine mem_applyMappings.mpr (.inr ⟨first, m, later, hsplit, rfl, ?_⟩)
      rw [hissuer]
      exact mem_applyMappings.mpr (.inl (List.mem_singleton_self _))
    exact ⟨m.subjectPolicy, hderived, hsubject⟩

theorem exists_mem_reopenedAt :
    (∃ p ∈ reopenedAt path j d, p ≠ anyPolicy) ↔
      ¬ InForce mappingSkip? path j ∧
        ∃ m ∈ d.policyMappings, m.issuerPolicy = anyPolicy ∧ m.subjectPolicy ≠ anyPolicy := by
  have hmapping : isActive (before path j).inhibitMapping j = true ↔
      InForce mappingSkip? path j := tracks_mapping.isActive_take j
  rw [← hmapping, reopenedAt]
  split
  · rename_i hactive
    simp [hactive]
  · rename_i hinactive
    simp [hinactive, exists_mem_applyMappings_anyPolicy]

theorem exists_mem_process (hlen : path.length = n + 1) :
    (∃ p ∈ (process path).1, p ≠ anyPolicy) ↔
      ∃ p ∈ (before path (n + 1)).valid, p ≠ anyPolicy := by
  constructor
  · rintro ⟨p, hp, hne⟩
    exact ⟨p, ((mem_process hlen).mp hp).1, hne⟩
  · rintro ⟨p, hp, hne⟩
    exact ⟨p, (mem_process hlen).mpr ⟨hp, fun h => absurd h hne⟩, hne⟩

/-- Below a certificate that declares no policies nothing is valid until the policy for all policies
is declared, which then is valid with what it is mapped to, as at a root. On a path without such a
certificate before the last, another policy is valid just where the last one maps the policy for all
policies to another. -/
theorem process_emptied (hlen : path.length = n + 1) (hc : path[k]? = some c)
    (hnone : c.policies?.getD [] = []) :
    (ClosedBetween path k (n + 1) → (process path).1 = []) ∧
    (∀ j d, k < j → path[j]? = some d → ClosedBetween path k j → DeclaredAt path j anyPolicy →
      (before path (j + 1)).valid = reopenedAt path j d) ∧
    (∀ d, path[n]? = some d → ClosedBetween path k n →
      ((∃ p ∈ (process path).1, p ≠ anyPolicy) ↔
        k < n ∧ DeclaredAt path n anyPolicy ∧ ¬ InForce mappingSkip? path n ∧
          ∃ m ∈ d.policyMappings, m.issuerPolicy = anyPolicy ∧ m.subjectPolicy ≠ anyPolicy)) := by
  have hk : k < n + 1 := hlen ▸ (List.getElem?_eq_some_iff.mp hc).1
  refine ⟨?_, ?_, ?_⟩
  · intro hclosed
    have hvalid := valid_eq_nil_of_closed hc hnone hk (Nat.le_of_eq hlen.symm) hclosed
    rw [List.eq_nil_iff_forall_not_mem]
    intro p hp
    rw [mem_process hlen, hvalid] at hp
    exact absurd hp.1 List.not_mem_nil
  · intro j d hkj hd hclosed hopen
    have hj : j < path.length := (List.getElem?_eq_some_iff.mp hd).1
    have hvalid := valid_eq_nil_of_closed hc hnone hkj (Nat.le_of_lt hj) hclosed
    exact valid_succ_eq_reopenedAt hvalid hd hopen
  · intro d hd hclosed
    rw [exists_mem_process hlen]
    rcases Nat.lt_succ_iff_lt_or_eq.mp hk with hkn | rfl
    · have hvalid := valid_eq_nil_of_closed hc hnone hkn (by omega) hclosed
      by_cases hopen : DeclaredAt path n anyPolicy
      · rw [valid_succ_eq_reopenedAt hvalid hd hopen, exists_mem_reopenedAt]
        simp [hkn, hopen]
      · simp [valid_succ_eq_nil hvalid hd hopen, hopen]
    · simp [valid_eq_nil_of_undeclared hc hnone]

/-- A certificate with some policies below one with others, below a root with none. -/
def undeclaredChain (lower upper : List String) : List ChainEntry := [
  { certificate := .plain "leaf" "upper" [.certificatePolicies lower] },
  { certificate := .plain "upper" "root" [.certificatePolicies upper]
    position := 1
    role := .intermediate },
  { certificate := .plain "root" "root" []
    position := 2
    role := .root }]

theorem undeclaredChain_placed (lower upper : List String) :
    ∃ (ctx : Context) (e : ChainEntry),
      ctx.chain = undeclaredChain lower upper ∧ ctx.Placed 0 e := by
  obtain ⟨e, he⟩ : ∃ e, (undeclaredChain lower upper)[0]? = some e := ⟨_, rfl⟩
  -- The policies do not tell who issued what.
  have horder : Chain.order (((undeclaredChain lower upper).map ChainEntry.unplaced).map
      fun e => Chain.Link.ofCertificate e.certificate) = [0, 1, 2] := by
    change Chain.order (((undeclaredChain [] []).map ChainEntry.unplaced).map
      fun e => Chain.Link.ofCertificate e.certificate) = [0, 1, 2]
    decide
  have hassemble : Chain.assemble ((undeclaredChain lower upper).map ChainEntry.unplaced) =
      .ok (undeclaredChain lower upper, []) := by
    simp only [Chain.assemble, horder]
    rfl
  exact ⟨_, e, rfl, Audit.placed_of_assemble hassemble he { seconds := 0 } [] []⟩

/-- The policy for all policies is declared last, and is the only one that is valid. -/
theorem process_emptied_undeclaredChain :
    ∃ ctx : Context, ctx.chain = undeclaredChain [anyPolicy] ["1.2.3"] ∧ (∃ e, ctx.Placed 0 e) ∧
      anyPolicy ∈ (process (pathTo ctx.chain 0)).1 ∧
      ¬ ∃ p ∈ (process (pathTo ctx.chain 0)).1, p ≠ anyPolicy := by
  obtain ⟨ctx, e, hchain, hplaced⟩ := undeclaredChain_placed [anyPolicy] ["1.2.3"]
  refine ⟨ctx, hchain, ⟨e, hplaced⟩, ?_, ?_⟩
  · rw [hchain]
    decide
  · rw [hchain]
    have hlen : (pathTo (undeclaredChain [anyPolicy] ["1.2.3"]) 0).length = 2 + 1 := rfl
    obtain ⟨_, _, hlast⟩ := process_emptied (k := 0) hlen rfl rfl
    have hclosed : ClosedBetween (pathTo (undeclaredChain [anyPolicy] ["1.2.3"]) 0) 0 2 := by
      intro i hi hi'
      obtain rfl : i = 1 := by omega
      rintro ⟨c, hc, hmem, _⟩
      cases hc
      revert hmem
      decide
    rw [hlast _ rfl hclosed]
    rintro ⟨_, _, _, m, hm, _⟩
    cases hm

/-- The policy for all policies is declared below a root without policies: a policy declared last is
valid and accepted. -/
theorem mem_process_undeclaredChain :
    ∃ ctx : Context, ctx.chain = undeclaredChain ["1.2.3"] [anyPolicy] ∧ (∃ e, ctx.Placed 0 e) ∧
      (∃ c ∈ pathTo ctx.chain 0, c.policies? = none) ∧
      "1.2.3" ∈ (process (pathTo ctx.chain 0)).1 ∧ "1.2.3" ≠ anyPolicy ∧
      Operator.certificatePolicyValid.evaluate none ctx [.string "1.2.3"] = .ok true := by
  obtain ⟨ctx, e, hchain, hplaced⟩ := undeclaredChain_placed ["1.2.3"] [anyPolicy]
  refine ⟨ctx, hchain, ⟨e, hplaced⟩, ?_, ?_, ?_, ?_⟩
  · rw [hchain]
    exact ⟨_, List.mem_cons_self, rfl⟩
  · rw [hchain]
    decide
  · decide
  · change Except.ok (judge ctx [.string "1.2.3"]) = .ok true
    rw [judge_eq hplaced, hchain]
    decide

end CertAudit.PolicyGraph
