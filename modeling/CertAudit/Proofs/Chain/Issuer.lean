/- Along a chain the issuer of each certificate is the next one, and bears the name that the
certificate gives for it. Only a chain that lacks its root ends at a certificate without issuer. -/
import CertAudit.Operator
import CertAudit.Proofs.Certificate.Names
import CertAudit.Proofs.Context
import Mathlib
namespace CertAudit

variable {ctx : Context} {p : Nat} {e next : ChainEntry}

namespace Context.Placed

theorem issuer?_of_root (h : ctx.Placed p e) (hrole : e.role = .root) :
    ctx.issuer? = some e.certificate := by
  simp only [issuer?, h.entry, h.chain_isEmpty, hrole, Bool.false_eq_true, if_false, if_true]

theorem issuer?_of_ne_root (h : ctx.Placed p e) (hrole : e.role ≠ .root) :
    ctx.issuer? = (ctx.chain[p + 1]?).map (·.certificate) := by
  simp only [issuer?, h.entry, h.chain_isEmpty, hrole, h.position, Bool.false_eq_true, if_false]

theorem evaluate_issuedBy (h : ctx.Placed p e) (target : Option Node) (operands : List Value) :
    Operator.issuedBy.evaluate target ctx operands =
      .ok (ctx.issuer?.any fun issuer => e.certificate.issuerLine == issuer.subjectLine) := by
  have hcertificate : ctx.certificate? = some e.certificate := by
    rw [certificate?, h.entry]
    rfl
  cases hissuer : ctx.issuer? <;>
    simp only [Operator.evaluate, Operator.withIssuer, hcertificate, hissuer, Option.any]

end Context.Placed

namespace Chain

variable {entries chain rest : List ChainEntry}

/-- The next certificate of a chain is the issuer of the one before it, and a root its own. A
certificate is issued by its issuer, so all are but one at the end of a chain that has no root. -/
theorem issuedBy_along_chain (h : assemble entries = .ok (chain, rest))
    (hnames : ∀ e ∈ entries, e.certificate.NamesAgree) (hchain : ctx.chain = chain)
    (hentry : ctx.entry = some e) (he : chain[p]? = some e) (target : Option Node)
    (operands : List Value) :
    (∀ next, chain[p + 1]? = some next → e.role ≠ .root ∧ ctx.issuer? = some next.certificate ∧
      Operator.issuedBy.evaluate target ctx operands = .ok true) ∧
    (chain[p + 1]? = none → e.role = .root → ctx.issuer? = some e.certificate ∧
      Operator.issuedBy.evaluate target ctx operands = .ok true) ∧
    (chain[p + 1]? = none → e.role ≠ .root → ctx.issuer? = none ∧
      Operator.issuedBy.evaluate target ctx operands = .ok false) := by
  subst hchain
  have hplaced := Audit.placed_of_getElem? h rfl hentry he
  obtain ⟨hroot, hlast⟩ := Audit.role_of_assemble h he
  rw [hplaced.evaluate_issuedBy]
  refine ⟨?_, ?_, ?_⟩
  · intro next hnext
    have hrole : e.role ≠ .root := by
      intro hrole
      have hend := hlast (hroot.mp hrole)
      obtain ⟨hlt, _⟩ := List.getElem?_eq_some_iff.mp hnext
      omega
    have hissuer : ctx.issuer? = some next.certificate := by
      rw [hplaced.issuer?_of_ne_root hrole, hnext, Option.map_some]
    have hline := Audit.issuerLine_eq_subjectLine h he hnext
    exact ⟨hrole, hissuer, by rw [hissuer, Option.any_some, hline, beq_self_eq_true]⟩
  · intro _ hrole
    have hissuer := hplaced.issuer?_of_root hrole
    obtain ⟨given, hgiven, hsame⟩ := Audit.exists_given_of_mem h (List.mem_of_getElem? he)
    have hagree : e.certificate.NamesAgree := hsame ▸ hnames given hgiven
    have hline := hagree.subjectLine_eq (hroot.mp hrole)
    exact ⟨hissuer, by rw [hissuer, Option.any_some, hline, beq_self_eq_true]⟩
  · intro hend hrole
    have hissuer : ctx.issuer? = none := by
      rw [hplaced.issuer?_of_ne_root hrole, hend, Option.map_none]
    exact ⟨hissuer, by rw [hissuer, Option.any_none]⟩

/-- The certificate of an authority below a root. -/
def lowerAuthority : Certificate :=
  .short 1 (.single [0x55, 4, 3] 0x0c "Root") (.single [0x55, 4, 3] 0x0c "CA")

/-- A certificate of that authority, whose name it has in other characters. -/
def issuedLeaf : Certificate :=
  .short 7 (.single [0x55, 4, 3] 0x13 "CA") (.single [0x55, 4, 3] 0x0c "leaf")

def issuedEntry : ChainEntry := { certificate := issuedLeaf }

def highestEntry : ChainEntry :=
  { certificate := lowerAuthority, position := 1, role := .intermediate }

theorem assemble_rootless : assemble [{ certificate := lowerAuthority }, issuedEntry] =
    .ok ([issuedEntry, highestEntry], []) := rfl

theorem rootless_namesAgree :
    ∀ e ∈ [{ certificate := lowerAuthority }, issuedEntry], e.certificate.NamesAgree := by
  have hauthority : Certificate.ofBytes lowerAuthority.encoding = .ok lowerAuthority := by cbv
  have hleaf : Certificate.ofBytes issuedLeaf.encoding = .ok issuedLeaf := by cbv
  intro e he
  rcases List.mem_pair.mp he with rfl | rfl
  · exact (Certificate.IsRead.of_ofBytes hauthority).namesAgree
  · exact (Certificate.IsRead.of_ofBytes hleaf).namesAgree

/-- The context of an entry of the chain that lacks its root. -/
def rootlessContext (e : ChainEntry) : Context :=
  Audit.contextOf { seconds := 0 } [] [] [issuedEntry, highestEntry] e

theorem issuedBy_along_chain_rootless :
    (rootlessContext issuedEntry).issuer? = some lowerAuthority ∧
      Operator.issuedBy.evaluate none (rootlessContext issuedEntry) [] = .ok true ∧
      (rootlessContext highestEntry).issuer? = none ∧
      Operator.issuedBy.evaluate none (rootlessContext highestEntry) [] = .ok false := by
  have hchain : ∀ e, (rootlessContext e).chain = [issuedEntry, highestEntry] := fun _ => rfl
  obtain ⟨hnext, _, _⟩ := issuedBy_along_chain assemble_rootless rootless_namesAgree
    (hchain issuedEntry) rfl (p := 0) rfl none []
  obtain ⟨_, hissuer, hissued⟩ := hnext _ rfl
  obtain ⟨_, _, hend⟩ := issuedBy_along_chain assemble_rootless rootless_namesAgree
    (hchain highestEntry) rfl (p := 1) rfl none []
  obtain ⟨hnone, hunissued⟩ := hend rfl (by decide)
  exact ⟨hissuer, hissued, hnone, hunissued⟩

end Chain
end CertAudit
