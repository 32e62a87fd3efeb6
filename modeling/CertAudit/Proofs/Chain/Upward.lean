/- Some operators look only upward from the certificate under test, so that it makes no difference to
them what stands below it in the chain, nor where the chain is said to start. -/
import CertAudit.Proofs.Chain.Issuer
import CertAudit.Proofs.PathLength.Positions
namespace CertAudit

/-- The operators that judge a certificate together with those above it. -/
def Operator.lookingUp : List Operator :=
  [.signedBy, .issuedBy, .akiMatchesSki, .nameConstraintsValid, .certificatePolicyValid]

/-- Two contexts that show the same certificates from the one under test upward. -/
structure Context.SameUpward (ctx other : Context) (p q : Nat) (e f : ChainEntry) : Prop where
  placed : ctx.Placed p e
  other_placed : other.Placed q f
  root_iff : e.role = .root ↔ f.role = .root
  certificates_eq : (ctx.chain.drop p).map (·.certificate) =
    (other.chain.drop q).map (·.certificate)

namespace Context

variable {ctx other : Context} {p q : Nat} {e f : ChainEntry}

theorem Placed.certificate?_eq (h : ctx.Placed p e) : ctx.certificate? = some e.certificate := by
  rw [certificate?, h.entry]
  rfl

theorem Placed.drop_eq (h : ctx.Placed p e) : ctx.chain.drop p = e :: ctx.chain.drop (p + 1) := by
  obtain ⟨hlt, hget⟩ := List.getElem?_eq_some_iff.mp h.inChain
  rw [List.drop_eq_getElem_cons hlt, hget]

/-- What two contexts show alike from the certificate under test upward is that certificate and
those above it. -/
theorem Placed.certificates_inj (h : ctx.Placed p e) (h' : other.Placed q f)
    (heq : (ctx.chain.drop p).map (·.certificate) = (other.chain.drop q).map (·.certificate)) :
    e.certificate = f.certificate ∧ (ctx.chain.drop (p + 1)).map (·.certificate) =
      (other.chain.drop (q + 1)).map (·.certificate) := by
  rw [h.drop_eq, h'.drop_eq, List.map_cons, List.map_cons] at heq
  exact List.cons.inj heq

namespace SameUpward

theorem certificate_eq (h : ctx.SameUpward other p q e f) : e.certificate = f.certificate :=
  (h.placed.certificates_inj h.other_placed h.certificates_eq).1

theorem above_eq (h : ctx.SameUpward other p q e f) :
    (ctx.chain.drop (p + 1)).map (·.certificate) = (other.chain.drop (q + 1)).map (·.certificate) :=
  (h.placed.certificates_inj h.other_placed h.certificates_eq).2

theorem certificate?_eq (h : ctx.SameUpward other p q e f) :
    ctx.certificate? = other.certificate? := by
  rw [h.placed.certificate?_eq, h.other_placed.certificate?_eq, h.certificate_eq]

/-- The next certificate above is the first of those above. -/
theorem issuer?_eq (h : ctx.SameUpward other p q e f) : ctx.issuer? = other.issuer? := by
  by_cases hroot : e.role = .root
  · rw [h.placed.issuer?_of_root hroot, h.other_placed.issuer?_of_root (h.root_iff.mp hroot),
      h.certificate_eq]
  · rw [h.placed.issuer?_of_ne_root hroot,
      h.other_placed.issuer?_of_ne_root (mt h.root_iff.mpr hroot)]
    have hnext := congrArg List.head? h.above_eq
    simpa only [List.head?_map, List.head?_drop] using hnext

variable (h : ctx.SameUpward other p q e f)
include h

theorem withIssuer_eq (test : Certificate → Certificate → Bool) :
    Operator.withIssuer test ctx = Operator.withIssuer test other := by
  rw [Operator.withIssuer, Operator.withIssuer, h.certificate?_eq, h.issuer?_eq]

theorem judgeKeyIds_eq : Operator.judgeKeyIds ctx = Operator.judgeKeyIds other := by
  rw [Operator.judgeKeyIds, Operator.judgeKeyIds, h.certificate?_eq, h.issuer?_eq,
    h.placed.chain_isEmpty, h.other_placed.chain_isEmpty]

theorem judgeNames_eq : NameConstraints.judge ctx = NameConstraints.judge other := by
  simp only [NameConstraints.judge, h.placed.entry, h.placed.chain_isEmpty, h.placed.position,
    h.other_placed.entry, h.other_placed.chain_isEmpty, h.other_placed.position, h.certificate_eq,
    h.above_eq]

theorem judgePolicies_eq (operands : List Value) :
    PolicyGraph.judge ctx operands = PolicyGraph.judge other operands := by
  simp only [PolicyGraph.judge, h.placed.entry, h.placed.chain_isEmpty, h.placed.position,
    h.other_placed.entry, h.other_placed.chain_isEmpty, h.other_placed.position, h.certificates_eq]

/-- Neither the targets of the rule nor anything else in the contexts counts. -/
theorem evaluate_eq {o : Operator} (ho : o ∈ Operator.lookingUp) (target target' : Option Node)
    (operands : List Value) :
    o.evaluate target ctx operands = o.evaluate target' other operands := by
  simp only [Operator.lookingUp, List.mem_cons, List.not_mem_nil, or_false] at ho
  rcases ho with rfl | rfl | rfl | rfl | rfl
  · exact congrArg Except.ok (h.withIssuer_eq Certificate.isSignedBy)
  · exact congrArg Except.ok (h.withIssuer_eq _)
  · exact congrArg Except.ok h.judgeKeyIds_eq
  · exact congrArg Except.ok h.judgeNames_eq
  · exact congrArg Except.ok (h.judgePolicies_eq operands)

end SameUpward
end Context

namespace Chain

/-- The part of a chain from a position on, as a chain of its own. -/
def cut (p : Nat) (chain : List ChainEntry) : List ChainEntry :=
  (chain.drop p).zipIdx.map fun (e, position) => place (chain.length - p) position e

variable {entries chain rest : List ChainEntry} {ctx : Context} {p q : Nat} {e : ChainEntry}

theorem cut_getElem? (hpq : p ≤ q) (he : chain[q]? = some e) :
    (cut p chain)[q - p]? = some (place (chain.length - p) (q - p) e) := by
  rw [cut, List.getElem?_map, List.getElem?_zipIdx, List.getElem?_drop, Nat.add_sub_cancel' hpq, he,
    Nat.zero_add]
  rfl

theorem map_certificate_drop_cut (hpq : p ≤ q) :
    ((cut p chain).drop (q - p)).map (·.certificate) = (chain.drop q).map (·.certificate) := by
  have hall : (cut p chain).map (·.certificate) = (chain.drop p).map (·.certificate) := by
    conv_rhs => rw [← List.zipIdx_map_fst 0 (chain.drop p)]
    rw [cut, List.map_map, List.map_map]
    rfl
  rw [List.map_drop, hall, ← List.map_drop, List.drop_drop, Nat.add_sub_cancel' hpq]

/-- A root stays the last one of the part, and nothing else becomes a root. -/
theorem role_cut (h : assemble entries = .ok (chain, rest)) (hpq : p ≤ q)
    (he : chain[q]? = some e) :
    e.role = .root ↔ (place (chain.length - p) (q - p) e).role = .root := by
  obtain ⟨hroot, hlast⟩ := Audit.role_of_assemble h he
  obtain ⟨hlt, _⟩ := List.getElem?_eq_some_iff.mp he
  rw [hroot, place, roleAt]
  constructor
  · intro hself
    have hend : q - p + 1 = chain.length - p := by
      have := hlast hself
      omega
    rw [if_pos ⟨hend, hself⟩]
  · intro hrole
    split at hrole
    · rename_i hself
      exact hself.2
    · split at hrole <;> cases hrole

theorem sameUpward_cut (h : assemble entries = .ok (chain, rest)) (hpq : p ≤ q)
    (hchain : ctx.chain = chain) (hentry : ctx.entry = some e) (he : chain[q]? = some e)
    {other : Context} (hother : other.chain = cut p chain)
    (hplaced : other.entry = some (place (chain.length - p) (q - p) e)) :
    ctx.SameUpward other q (q - p) e (place (chain.length - p) (q - p) e) where
  placed := Audit.placed_of_getElem? h hchain hentry he
  other_placed := ⟨hplaced, rfl, by rw [hother, cut_getElem? hpq he]⟩
  root_iff := role_cut h hpq he
  certificates_eq := by rw [hchain, hother, map_certificate_drop_cut hpq]

/-- In two chains, certificates with the same ones above them are both roots or both not. -/
theorem sameUpward_of_assemble (h : assemble entries = .ok (chain, rest))
    (hchain : ctx.chain = chain) (hentry : ctx.entry = some e) (he : chain[q]? = some e)
    {entries' chain' rest' : List ChainEntry} {other : Context} {q' : Nat} {e' : ChainEntry}
    (h' : assemble entries' = .ok (chain', rest')) (hchain' : other.chain = chain')
    (hentry' : other.entry = some e') (he' : chain'[q']? = some e')
    (hsame : (chain.drop q).map (·.certificate) = (chain'.drop q').map (·.certificate)) :
    ctx.SameUpward other q q' e e' := by
  have hplaced := Audit.placed_of_getElem? h hchain hentry he
  have hplaced' := Audit.placed_of_getElem? h' hchain' hentry' he'
  subst hchain hchain'
  refine ⟨hplaced, hplaced', ?_, hsame⟩
  rw [(Audit.role_of_assemble h he).1, (Audit.role_of_assemble h' he').1,
    (hplaced.certificates_inj hplaced' hsame).1]

/-- A certificate of a chain keeps the verdicts of these operators when the chain is cut anywhere
below it, and has the same in every chain that has the same certificates from it upward. -/
theorem lookingUp_cut (h : assemble entries = .ok (chain, rest)) (hpq : p ≤ q)
    (hchain : ctx.chain = chain) (hentry : ctx.entry = some e) (he : chain[q]? = some e) :
    (∃ f, (cut p chain)[q - p]? = some f ∧ f.unplaced = e.unplaced ∧ f.position = q - p ∧
      (f.role = .root ↔ e.role = .root) ∧
      ∀ other : Context, other.chain = cut p chain → other.entry = some f →
        ∀ o ∈ Operator.lookingUp, ∀ target operands,
          o.evaluate target other operands = o.evaluate target ctx operands) ∧
    ∀ entries' chain' rest' other q' e', assemble entries' = .ok (chain', rest') →
      other.chain = chain' → other.entry = some e' → chain'[q']? = some e' →
      (chain.drop q).map (·.certificate) = (chain'.drop q').map (·.certificate) →
        ∀ o ∈ Operator.lookingUp, ∀ target operands,
          o.evaluate target other operands = o.evaluate target ctx operands := by
  refine ⟨⟨_, cut_getElem? hpq he, rfl, rfl, (role_cut h hpq he).symm, ?_⟩, ?_⟩
  · intro other hother hplaced o ho target operands
    exact ((sameUpward_cut h hpq hchain hentry he hother hplaced).evaluate_eq ho _ _ _).symm
  · intro entries' chain' rest' other q' e' h' hchain' hentry' he' hsame o ho target operands
    exact ((sameUpward_of_assemble h hchain hentry he h' hchain' hentry' he' hsame).evaluate_eq
      ho _ _ _).symm

/-- The upper authority is judged alike in its chain and at the start of what is above it, except by
the length of paths. -/
theorem lookingUp_cut_authorityFirst :
    ∃ upper first : ChainEntry, PathLength.authorityFirst[1]? = some upper ∧
      (cut 1 PathLength.authorityFirst)[0]? = some first ∧
      (∀ o ∈ Operator.lookingUp, ∀ operands,
        o.evaluate none (Audit.contextOf { seconds := 0 } [] [] (cut 1 PathLength.authorityFirst)
            first) operands =
          o.evaluate none (Audit.contextOf { seconds := 0 } [] [] PathLength.authorityFirst upper)
            operands) ∧
      Operator.pathLenValid.evaluate none
        (Audit.contextOf { seconds := 0 } [] [] (cut 1 PathLength.authorityFirst) first) [] =
          .ok true ∧
      Operator.pathLenValid.evaluate none
        (Audit.contextOf { seconds := 0 } [] [] PathLength.authorityFirst upper) [] =
          .ok false := by
  have hassemble : assemble (PathLength.authorityFirst.map ChainEntry.unplaced) =
      .ok (PathLength.authorityFirst, []) := rfl
  obtain ⟨upper, hupper⟩ : ∃ upper, PathLength.authorityFirst[1]? = some upper := ⟨_, rfl⟩
  have hchain : (Audit.contextOf { seconds := 0 } [] [] PathLength.authorityFirst upper).chain =
      PathLength.authorityFirst := rfl
  obtain ⟨⟨first, hfirst, _, _, _, hsame⟩, _⟩ :=
    lookingUp_cut hassemble (Nat.le_refl 1) hchain rfl hupper
  refine ⟨upper, first, hupper, hfirst, ?_, ?_, ?_⟩
  · intro o ho operands
    exact hsame _ rfl rfl o ho none operands
  · cases hfirst
    rfl
  · cases hupper
    rfl

end Chain
end CertAudit
