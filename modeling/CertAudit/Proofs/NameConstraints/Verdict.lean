/- The verdict on the names of a certificate: what it says, and what it does not depend on. -/
import CertAudit.Operator
import CertAudit.Proofs.Context
import CertAudit.Proofs.NameConstraints.Folding
namespace CertAudit.NameConstraints

variable {ctx ctx' : Context} {p p' : Nat} {e e' : ChainEntry}

/-- Whether a subtree is of a form that is checked. -/
def isChecked : NameSubtree → Bool
  | .dns _ => true
  | .email _ => true
  | .uri _ => true
  | .ip _ => true
  | .other _ => false

theorem checkedCount_eq (subtrees : List NameSubtree) :
    checkedCount subtrees = subtrees.countP isChecked := by
  rw [List.countP_eq_length_filter, checkedCount]
  congr 2
  funext s
  cases s <;> rfl

theorem countP_isChecked_folded (subtrees : List NameSubtree) :
    (subtrees.map foldSubtree).countP isChecked = subtrees.countP isChecked := by
  have hform : isChecked ∘ foldSubtree = isChecked := by
    funext s
    cases s <;> rfl
  rw [List.countP_map, hform]

/-- The number of pairs of a name of an entry and a subtree above its position. -/
def work (chain : List ChainEntry) (p : Nat) (e : ChainEntry) : Nat :=
  e.certificate.altNames.length *
    (imposedAbove NameConstraints.permitted chain p ++
      imposedAbove NameConstraints.excluded chain p).countP isChecked

theorem judge_eq_true_iff (h : ctx.Placed p e) :
    judge ctx = true ↔ work ctx.chain p e ≤ maxWork ∧ ∀ name ∈ e.certificate.altNames,
      Admitted (imposedAbove NameConstraints.permitted ctx.chain p)
        (imposedAbove NameConstraints.excluded ctx.chain p) name := by
  have hchain : ctx.chain.isEmpty = false := by
    rw [List.isEmpty_eq_false_iff_exists_mem]
    exact ⟨e, List.mem_of_getElem? h.inChain⟩
  have hgather : gather ((ctx.chain.drop (e.position + 1)).map (·.certificate)) =
      { permitted := imposedAbove NameConstraints.permitted ctx.chain p
        excluded := imposedAbove NameConstraints.excluded ctx.chain p } := by
    rw [h.position, gather_eq_imposed]
    rfl
  rw [judge, h.entry]
  simp only [hgather, hchain, Bool.not_false, Bool.true_and, namesAllowed, Bool.and_eq_true,
    decide_eq_true_eq, List.all_eq_true, nameAllowed_iff, checkedCount_eq, work,
    List.countP_append]

/-- Two certificates impose the same subtrees on those below them, in whatever order and case. -/
def ImposeAlike (side : NameConstraints → List NameSubtree) (c d : Certificate) : Prop :=
  ((imposed side c).map foldSubtree).Perm ((imposed side d).map foldSubtree)

/-- Certificates in another order that impose alike one by one. -/
def AlikeReordered (cs ds : List Certificate) : Prop :=
  ∃ mid : List Certificate, cs.Perm mid ∧
    List.Forall₂ (ImposeAlike NameConstraints.permitted) mid ds ∧
    List.Forall₂ (ImposeAlike NameConstraints.excluded) mid ds

theorem imposed_perm {side : NameConstraints → List NameSubtree} {cs mid ds : List Certificate}
    (hperm : cs.Perm mid) (halike : List.Forall₂ (ImposeAlike side) mid ds) :
    ((cs.flatMap (imposed side)).map foldSubtree).Perm
      ((ds.flatMap (imposed side)).map foldSubtree) := by
  have hreordered := (hperm.flatMap_right (imposed side)).map foldSubtree
  have hmid : ((mid.flatMap (imposed side)).map foldSubtree).Perm
      ((ds.flatMap (imposed side)).map foldSubtree) := by
    clear hperm hreordered
    induction halike with
    | nil => exact .refl _
    | cons hhead _ ih =>
      rw [List.flatMap_cons, List.flatMap_cons, List.map_append, List.map_append]
      exact hhead.append ih
  exact hreordered.trans hmid

theorem forall_admitted_of_perm {permitted permitted' excluded excluded' : List NameSubtree}
    {names names' : List AltName}
    (hpermitted : (permitted.map foldSubtree).Perm (permitted'.map foldSubtree))
    (hexcluded : (excluded.map foldSubtree).Perm (excluded'.map foldSubtree))
    (hnames : (names.map foldName).Perm (names'.map foldName))
    (h : ∀ name ∈ names, Admitted permitted excluded name) :
    ∀ name ∈ names', Admitted permitted' excluded' name := by
  intro name' hmem'
  have hmem := hnames.mem_iff.mpr (List.mem_map_of_mem hmem')
  obtain ⟨name, hname, hfold⟩ := List.mem_map.mp hmem
  exact (admitted_congr hpermitted hexcluded hfold).mp (h name hname)

/-- The verdict depends only on the names and on the subtrees above, each up to order and case. -/
theorem judge_congr (h : ctx.Placed p e) (h' : ctx'.Placed p' e')
    (hnames : (e.certificate.altNames.map foldName).Perm (e'.certificate.altNames.map foldName))
    (hpermitted : ((imposedAbove NameConstraints.permitted ctx.chain p).map foldSubtree).Perm
      ((imposedAbove NameConstraints.permitted ctx'.chain p').map foldSubtree))
    (hexcluded : ((imposedAbove NameConstraints.excluded ctx.chain p).map foldSubtree).Perm
      ((imposedAbove NameConstraints.excluded ctx'.chain p').map foldSubtree)) :
    judge ctx = judge ctx' := by
  have hwork : work ctx.chain p e = work ctx'.chain p' e' := by
    have hlength := hnames.length_eq
    have hpermitted' := hpermitted.countP_eq isChecked
    have hexcluded' := hexcluded.countP_eq isChecked
    rw [List.length_map, List.length_map] at hlength
    rw [countP_isChecked_folded, countP_isChecked_folded] at hpermitted' hexcluded'
    rw [work, work, hlength, List.countP_append, List.countP_append, hpermitted', hexcluded']
  rw [Bool.eq_iff_iff, judge_eq_true_iff h, judge_eq_true_iff h', hwork]
  refine and_congr_right fun _ => ⟨?_, ?_⟩
  · exact forall_admitted_of_perm hpermitted hexcluded hnames
  · exact forall_admitted_of_perm hpermitted.symm hexcluded.symm hnames.symm

/-- With too many names and subtrees nothing passes. Else those pass whose names are all admitted
by the subtrees above. Order, case, and what stands below in the chain do not matter. -/
theorem nameConstraintsValid_verdict (h : ctx.Placed p e) (target : Option Node) (operands : List Value) :
    ∃ verdict, Operator.nameConstraintsValid.evaluate target ctx operands = .ok verdict ∧
      (maxWork < work ctx.chain p e → verdict = false) ∧
      (work ctx.chain p e ≤ maxWork → (verdict = true ↔ ∀ name ∈ e.certificate.altNames,
        Admitted (imposedAbove NameConstraints.permitted ctx.chain p)
          (imposedAbove NameConstraints.excluded ctx.chain p) name)) ∧
      ∀ (ctx' : Context) (p' : Nat) (e' : ChainEntry) (target' : Option Node)
        (operands' : List Value), ctx'.Placed p' e' →
        (e.certificate.altNames.map foldName).Perm (e'.certificate.altNames.map foldName) →
        AlikeReordered (above ctx.chain p) (above ctx'.chain p') →
        Operator.nameConstraintsValid.evaluate target' ctx' operands' = .ok verdict := by
  refine ⟨judge ctx, rfl, ?_, ?_, ?_⟩
  · intro hwork
    rw [← Bool.not_eq_true, judge_eq_true_iff h]
    exact fun hjudge => absurd hjudge.1 (Nat.not_le.mpr hwork)
  · intro hwork
    rw [judge_eq_true_iff h]
    exact and_iff_right hwork
  · intro ctx' p' e' target' operands' h' hnames habove
    obtain ⟨mid, hperm, hpermitted, hexcluded⟩ := habove
    rw [judge_congr h h' hnames (imposed_perm hperm hpermitted) (imposed_perm hperm hexcluded)]
    rfl

/-- A host below an authority that permits a domain and excludes a part of it. -/
def constrainedChain : List ChainEntry := [
  { certificate := .plain "www" "authority" [.subjectAltName [.dns "WWW.Example.com"]] },
  { certificate := .plain "authority" "authority" [.basicConstraints true none,
      .nameConstraints { permitted := [.dns "example.com"], excluded := [.dns ".www.example.com"] }]
    position := 1
    role := .root }]

theorem nameConstraintsValid_verdict_constrainedChain :
    ∃ ctx e, Chain.assemble (constrainedChain.map ChainEntry.unplaced) = .ok (ctx.chain, []) ∧
      ctx.Placed 0 e ∧ Operator.nameConstraintsValid.evaluate none ctx [] = .ok true := by
  have hassemble : Chain.assemble (constrainedChain.map ChainEntry.unplaced) =
      .ok (constrainedChain, []) := rfl
  obtain ⟨e, he⟩ : ∃ e, constrainedChain[0]? = some e := ⟨_, rfl⟩
  have hplaced := Audit.placed_of_assemble hassemble he { seconds := 0 } [] []
  obtain ⟨verdict, heq, _, hiff, _⟩ := nameConstraintsValid_verdict hplaced none []
  refine ⟨_, e, hassemble, hplaced, ?_⟩
  have hwork : work constrainedChain 0 e ≤ maxWork := by
    cases he
    decide +kernel
  have hadmitted : ∀ name ∈ e.certificate.altNames,
      Admitted (imposedAbove NameConstraints.permitted constrainedChain 0)
        (imposedAbove NameConstraints.excluded constrainedChain 0) name := by
    intro name hname
    cases he
    rw [← nameAllowed_iff]
    have hnames : name = .dns "WWW.Example.com" := List.mem_singleton.mp hname
    subst hnames
    decide +kernel
  rw [heq, (hiff hwork).mpr hadmitted]

end CertAudit.NameConstraints
