/- A context puts one entry of its chain under test, and an audit only makes such contexts. -/
import CertAudit.Proofs.Chain.Assembly
import CertAudit.Report
namespace CertAudit

/-- The certificate under test is the one at a position of the chain. -/
structure Context.Placed (ctx : Context) (p : Nat) (e : ChainEntry) : Prop where
  entry : ctx.entry = some e
  position : e.position = p
  inChain : ctx.chain[p]? = some e

theorem Context.Placed.chain_isEmpty {ctx : Context} {p : Nat} {e : ChainEntry}
    (h : ctx.Placed p e) : ctx.chain.isEmpty = false := by
  have hin := h.inChain
  cases hchain : ctx.chain with
  | nil => simp [hchain] at hin
  | cons => rfl

namespace Audit

variable {entries chain rest : List ChainEntry} {e : ChainEntry}

/-- Assembling gives a walk up the issuers, and what is not on it. -/
theorem exists_walk_of_assemble (h : Chain.assemble entries = .ok (chain, rest)) :
    ∃ places, Chain.IssuerPath (Chain.linksOf entries) places ∧
      chain = Chain.along places entries ∧ rest = Chain.outside places entries := by
  have hne : entries ≠ [] := by
    rintro rfl
    cases h
  obtain ⟨start, hbest, heq⟩ := Chain.exists_assemble_eq hne
  rw [heq] at h
  cases h
  exact ⟨_, Chain.walk_issuerPath hbest.within, rfl, rfl⟩

theorem unplaced_perm_of_assemble (h : Chain.assemble entries = .ok (chain, rest)) :
    ((chain ++ rest).map ChainEntry.unplaced).Perm (entries.map ChainEntry.unplaced) := by
  obtain ⟨places, hpath, rfl, rfl⟩ := exists_walk_of_assemble h
  exact Chain.along_append_outside_perm hpath.nodup hpath.within_entries

/-- The certificate of an entry of the chain is one of those given. -/
theorem exists_given_of_mem (h : Chain.assemble entries = .ok (chain, rest)) (he : e ∈ chain) :
    ∃ given ∈ entries, given.certificate = e.certificate := by
  obtain ⟨places, hpath, rfl, _⟩ := exists_walk_of_assemble h
  obtain ⟨k, hk⟩ := List.mem_iff_getElem?.mp he
  obtain ⟨i, given, _, hgiven, rfl⟩ := Chain.eq_place_of_along hpath.within_entries hk
  exact ⟨given, List.mem_of_getElem? hgiven, rfl⟩

/-- A certificate names the next one of the chain as its issuer. -/
theorem issuerLine_eq_subjectLine (h : Chain.assemble entries = .ok (chain, rest)) {p : Nat}
    {next : ChainEntry} (he : chain[p]? = some e) (hnext : chain[p + 1]? = some next) :
    e.certificate.issuerLine = next.certificate.subjectLine := by
  obtain ⟨places, hpath, rfl, _⟩ := exists_walk_of_assemble h
  obtain ⟨_, rfl⟩ := List.getElem?_eq_some_iff.mp he
  obtain ⟨hlt, rfl⟩ := List.getElem?_eq_some_iff.mp hnext
  exact (List.isChain_iff_getElem.mp (Chain.along_linked hpath) p hlt).2

/-- A root of a chain is self-issued, and only the last certificate can be. -/
theorem role_of_assemble (h : Chain.assemble entries = .ok (chain, rest)) {p : Nat}
    (he : chain[p]? = some e) :
    (e.role = .root ↔ e.certificate.isSelfIssued = true) ∧
      (e.certificate.isSelfIssued = true → p + 1 = chain.length) := by
  obtain ⟨places, hpath, rfl, _⟩ := exists_walk_of_assemble h
  obtain ⟨_, hlast, hrole⟩ := Chain.along_entry hpath he
  refine ⟨?_, ?_⟩
  · rw [hrole]
    cases e.certificate.isSelfIssued with
    | true => simp
    | false => by_cases hp : p = 0 <;> simp [hp]
  · rwa [Chain.along_length hpath.within_entries]

theorem placed_of_getElem? {ctx : Context} (h : Chain.assemble entries = .ok (chain, rest))
    (hchain : ctx.chain = chain) (hentry : ctx.entry = some e) {p : Nat}
    (he : chain[p]? = some e) : ctx.Placed p e := by
  subst hchain
  obtain ⟨places, hpath, hplaces, _⟩ := exists_walk_of_assemble h
  exact ⟨hentry, (Chain.along_entry hpath (hplaces ▸ he)).1, he⟩

theorem placed_of_assemble (h : Chain.assemble entries = .ok (chain, rest)) {p : Nat}
    (he : chain[p]? = some e) (now : Timestamp) (lists : List RevocationList)
    (responses : List StatusResponse) : (contextOf now lists responses chain e).Placed p e :=
  placed_of_getElem? h rfl rfl he

/-- A certificate left over is at the start of a chain of its own. -/
theorem placed_of_remainder (h : Chain.assemble entries = .ok (chain, rest)) (he : e ∈ rest)
    (now : Timestamp) (lists : List RevocationList) (responses : List StatusResponse) :
    (contextOf now lists responses [e] e).Placed 0 e := by
  obtain ⟨places, _, _, rfl⟩ := exists_walk_of_assemble h
  exact ⟨rfl, (Chain.mem_outside he).1, rfl⟩

end Audit
end CertAudit
