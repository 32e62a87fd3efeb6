/- Which revocation lists count for a certificate of a chain. -/
import CertAudit.Operator
import CertAudit.Proofs.Certificate.Reading
import CertAudit.Proofs.Context
import Mathlib
namespace CertAudit

namespace RevocationList

variable {l : RevocationList} {c : Certificate}

/-- Some entry of the list has a serial number. -/
def Names (l : RevocationList) (serial : Bytes) : Prop := ∃ r ∈ l.revoked, r.serial = serial

/-- The issuer of the list spells its name with the same bytes as a certificate spells its own
issuer, or with the same line where the list has no bytes to compare. -/
def SpeltFor (l : RevocationList) (c : Certificate) : Prop :=
  l.issuer.encoding = c.issuer.encoding ∨
    (l.issuer.encoding = [] ∧ l.issuer.oneLine = c.issuerLine)

theorem covers_iff_speltFor (h : c.issuer.encoding ≠ []) : l.covers c = true ↔ l.SpeltFor c := by
  cases hl : l.issuer.encoding with
  | nil => simp [covers, Certificate.sameName, SpeltFor, Certificate.issuerLine, hl, h.symm]
  | cons b bs => simp [covers, Certificate.sameName, SpeltFor, hl, h]

theorem find?_eq_none_iff (h : Bytes.stripLeadingZeros c.serial = c.serial) :
    l.find? c.serial = none ↔ ¬ l.Names c.serial := by
  simp [find?, Names, h]

end RevocationList

namespace Revocation

variable {entries chain rest : List ChainEntry} {p : Nat} {e next : ChainEntry} {ctx : Context}

theorem judgeNotListed_eq_false_iff (hread : e.certificate.IsRead) (hplaced : ctx.Placed p e) :
    Operator.judgeNotListed ctx = false ↔
      ∃ l ∈ ctx.lists, l.SpeltFor e.certificate ∧ l.Names e.certificate.serial := by
  have hcertificate : ctx.certificate? = some e.certificate := by
    rw [Context.certificate?, hplaced.entry]
    rfl
  have hcovers : ∀ l : RevocationList, l.covers e.certificate = true ↔ l.SpeltFor e.certificate :=
    fun _ => RevocationList.covers_iff_speltFor hread.issuer_encoding_ne_nil
  have hfind : ∀ l : RevocationList,
      l.find? e.certificate.serial = none ↔ ¬ l.Names e.certificate.serial :=
    fun _ => RevocationList.find?_eq_none_iff hread.serial_stripped
  simp only [Operator.judgeNotListed, hcertificate, List.all_eq_false, List.mem_filter, hcovers,
    Option.isNone_iff_eq_none, hfind, not_not, and_assoc]

/-- A certificate of a chain counts as revoked under a list of its issuer that names it, as long as
the list and the certificate encode the name of the issuer alike. -/
theorem notRevoked_of_chain (h : Chain.assemble entries = .ok (chain, rest))
    (hread : ∀ e ∈ entries, e.certificate.IsRead) (hchain : ctx.chain = chain)
    (hplaced : ctx.Placed p e) (hnext : chain[p + 1]? = some next) (target : Option Node)
    (operands : List Value) :
    ∃ verdict, Operator.notRevoked.evaluate target ctx operands = .ok verdict ∧
      (verdict = false ↔
        ∃ l ∈ ctx.lists, l.SpeltFor e.certificate ∧ l.Names e.certificate.serial) ∧
      ∀ l ∈ ctx.lists, l.issuer.oneLine = next.certificate.subjectLine →
        (l.issuer.encoding ≠ [] → l.issuer.encoding = e.certificate.issuer.encoding) →
        l.Names e.certificate.serial → verdict = false := by
  subst hchain
  obtain ⟨given, hgiven, hsame⟩ := Audit.exists_given_of_mem h (List.mem_of_getElem? hplaced.inChain)
  have hverdict := judgeNotListed_eq_false_iff (hsame ▸ hread given hgiven) hplaced
  refine ⟨_, rfl, hverdict, ?_⟩
  intro l hl hline hencoding hnames
  refine hverdict.mpr ⟨l, hl, ?_, hnames⟩
  rcases Decidable.em (l.issuer.encoding = []) with hnil | hne
  · exact .inr ⟨hnil, hline.trans (Audit.issuerLine_eq_subjectLine h hplaced.inChain hnext).symm⟩
  · exact .inl (hencoding hne)

/-- The name of an authority as text of a kind. -/
def authorityName (tag : UInt8) : Name := .single [0x55, 4, 3] tag "CA"

/-- A certificate that names its issuer in printable characters. -/
def listedLeaf : Certificate := .short 7 (authorityName 0x13) (.single [0x55, 4, 3] 0x0c "leaf")

/-- The certificate of that issuer, which has its name in Unicode. -/
def listingRoot : Certificate := .short 1 (authorityName 0x0c) (authorityName 0x0c)

def listedEntries : List ChainEntry := [{ certificate := listedLeaf }, { certificate := listingRoot }]

def listedChain : List ChainEntry := [
  { certificate := listedLeaf },
  { certificate := listingRoot, position := 1, role := .root }]

/-- A list that names the certificate, of an issuer whose name is text of a kind. -/
def authorityList (tag : UInt8) : RevocationList :=
  { issuer := authorityName tag
    thisUpdate := { seconds := 0 }
    nextUpdate := none
    revoked := [{ serial := [7], date := { seconds := 0 }, reason := none }]
    signatureAlgorithmOid := Identifiers.ed25519
    encoding := SignedBytes.short (AlgorithmId.ed25519 ++ (authorityName tag).encoding ++
      Timestamp.epoch ++
      Der.shortForm 0x30 (Der.shortForm 0x30 (Der.shortForm 0x02 [7] ++ Timestamp.epoch))) }

/-- The certificate is audited below its issuer, with a list of that name. -/
def listedContext (tag : UInt8) : Context :=
  Audit.contextOf { seconds := 0 } [authorityList tag] [] listedChain { certificate := listedLeaf }

theorem assemble_listedEntries : Chain.assemble listedEntries = .ok (listedChain, []) := rfl

theorem listedContext_placed (tag : UInt8) :
    (listedContext tag).Placed 0 { certificate := listedLeaf } :=
  Audit.placed_of_assemble assemble_listedEntries rfl _ _ _

theorem listedEntries_isRead : ∀ e ∈ listedEntries, e.certificate.IsRead := by
  have hleaf : Certificate.ofBytes listedLeaf.encoding = .ok listedLeaf := by cbv
  have hroot : Certificate.ofBytes listingRoot.encoding = .ok listingRoot := by cbv
  intro e he
  rcases List.mem_pair.mp he with rfl | rfl
  · exact .of_ofBytes hleaf
  · exact .of_ofBytes hroot

theorem authorityList_names (tag : UInt8) : (authorityList tag).Names listedLeaf.serial :=
  ⟨_, List.mem_singleton_self _, rfl⟩

/-- A list that spells the issuer as the certificate does revokes it. -/
theorem notRevoked_of_chain_listedChain :
    Operator.notRevoked.evaluate none (listedContext 0x13) [] = .ok false := by
  obtain ⟨verdict, heq, _, hlisted⟩ := notRevoked_of_chain assemble_listedEntries
    listedEntries_isRead rfl (listedContext_placed 0x13) rfl none []
  rw [heq, hlisted _ (List.mem_singleton_self _) rfl (fun _ => rfl) (authorityList_names 0x13)]

/-- A list that spells the issuer as the issuer itself does leaves the certificate unrevoked, though
both names are the same in one line. -/
theorem notRevoked_respelt_listedChain :
    ∃ l next, Chain.assemble listedEntries = .ok (listedChain, []) ∧
      (∀ e ∈ listedEntries, e.certificate.IsRead) ∧
      RevocationList.ofBytes l.encoding = .ok [l] ∧
      (listedContext 0x0c).Placed 0 { certificate := listedLeaf } ∧
      (listedContext 0x0c).chain = listedChain ∧ listedChain[1]? = some next ∧
      l ∈ (listedContext 0x0c).lists ∧ l.issuer.oneLine = next.certificate.subjectLine ∧
      l.Names listedLeaf.serial ∧
      Operator.notRevoked.evaluate none (listedContext 0x0c) [] = .ok true := by
  have hread : RevocationList.ofBytes (authorityList 0x0c).encoding = .ok [authorityList 0x0c] := by
    cbv
  refine ⟨authorityList 0x0c, _, assemble_listedEntries, listedEntries_isRead, hread,
    listedContext_placed 0x0c, rfl, rfl, List.mem_singleton_self _, rfl,
    authorityList_names 0x0c, ?_⟩
  have hcovers : (authorityList 0x0c).covers listedLeaf = false := by decide
  change Except.ok (Operator.judgeNotListed (listedContext 0x0c)) = .ok true
  simp [Operator.judgeNotListed, listedContext, Context.certificate?, Audit.contextOf, hcovers]

end Revocation
end CertAudit
