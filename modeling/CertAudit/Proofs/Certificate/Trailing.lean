/- What follows the encoding of a certificate or of a revocation list does not count, and the
encoding that is kept is read again as the same. -/
import CertAudit.Proofs.Bundle
import CertAudit.Proofs.Der.Front
namespace CertAudit

variable {α β : Type}

namespace SignedBytes

/-- What the content of a sequence with a signature says. -/
def ofContent? (fields : Bytes → Option α) (content : Bytes) : Option (α × SignedBytes) := do
  let (body, tail) ← Der.readContent Der.Tag.sequence content
  let value ← fields body
  let signed := content.take (content.length - tail.length)
  let (algorithm, tail) ← AlgorithmId.read tail
  let (signature, _) ← Der.readBitString tail
  some (value, { body := signed, algorithm, signature })

theorem read_eq (fields : Bytes → Option α) :
    read fields = fun bs => (Der.readContent Der.Tag.sequence bs).bind fun item =>
      (ofContent? fields item.1).map fun x => (x, item.2) := by
  funext bs
  simp only [read, ofContent?, bind, Option.map_bind, Function.comp_def, Option.map_some]

theorem read_readsFront (fields : Bytes → Option α) : Der.ReadsFront (read fields) := by
  have hcontent : ∀ content, Der.ReadsFront fun rest =>
      (ofContent? fields content).map fun x => (x, rest) := by
    intro content
    cases ofContent? fields content with
    | none => exact Der.readsFront_none
    | some x => exact Der.readsFront_some x
  rw [read_eq]
  exact (Der.readContent_readsFront Der.Tag.sequence).bind hcontent

end SignedBytes

/-- What is read depends on its own encoding, which the bytes begin with. -/
structure ReadsEncoding (read : Bytes → Except Failure α) (encoding : α → Bytes) : Prop where
  front : ∀ bs x, read bs = .ok x → encoding x <+: bs
  again : ∀ bs x more, read bs = .ok x → read (encoding x ++ more) = .ok x

namespace ReadsEncoding

variable {read : Bytes → Except Failure α} {encoding : α → Bytes} {bs : Bytes} {x : α}

/-- Something is read from the item at the front and the bytes that this takes. -/
theorem of_readsFront {item : Bytes → Option (β × Bytes)} (build : β → Bytes → Except Failure α)
    (hitem : Der.ReadsFront item) (hnone : ∀ bs x, item bs = none → read bs ≠ .ok x)
    (hsome : ∀ bs y rest, item bs = some (y, rest) →
      read bs = build y (bs.take (bs.length - rest.length)))
    (hbuild : ∀ y taken x, build y taken = .ok x → encoding x = taken) :
    ReadsEncoding read encoding := by
  have hfront : ∀ bs x, read bs = .ok x →
      ∃ rest, bs = encoding x ++ rest ∧ ∀ more, read (encoding x ++ more) = .ok x := by
    intro bs x h
    cases hread : item bs with
    | none => exact absurd h (hnone bs x hread)
    | some found =>
      obtain ⟨y, rest⟩ := found
      obtain ⟨taken, rfl, htaken⟩ := hitem bs y rest hread
      have hbytes : ∀ more : Bytes,
          (taken ++ more).take ((taken ++ more).length - more.length) = taken := by
        intro more
        rw [List.length_append, Nat.add_sub_cancel, List.take_left]
      rw [hsome _ y rest hread, hbytes] at h
      obtain rfl := hbuild y taken x h
      refine ⟨rest, rfl, ?_⟩
      intro more
      rw [hsome _ y more (htaken more), hbytes, h]
  constructor
  · intro bs x h
    obtain ⟨rest, heq, _⟩ := hfront bs x h
    exact ⟨rest, heq.symm⟩
  · intro bs x more h
    obtain ⟨_, _, hagain⟩ := hfront bs x h
    exact hagain more

theorem append (h : ReadsEncoding read encoding) (hread : read bs = .ok x) (more : Bytes) :
    read (bs ++ more) = .ok x := by
  obtain ⟨rest, rfl⟩ := h.front bs x hread
  rw [List.append_assoc]
  exact h.again _ x _ hread

theorem alone (h : ReadsEncoding read encoding) (hread : read bs = .ok x) :
    read (encoding x) = .ok x := by
  have hagain := h.again bs x [] hread
  rwa [List.append_nil] at hagain

end ReadsEncoding

theorem Certificate.readsEncoding : ReadsEncoding ofEncoding encoding := by
  refine .of_readsFront (fun x taken => if x.1.version > 2 then
      .error (.certificate (.version (x.1.version + 1))) else .ok (ofParts x.1 x.2 taken))
    (SignedBytes.read_readsFront CertificateBody.read) ?_ ?_ ?_
  · intro bs c hnone h
    rw [ofEncoding, readSignedCertificate, hnone] at h
    cases h
  · intro bs x rest hsome
    rw [ofEncoding, readSignedCertificate, hsome]
  · intro x taken c h
    split at h
    · cases h
    · cases h
      rfl

theorem RevocationList.readsEncoding : ReadsEncoding ofEncoding encoding := by
  refine .of_readsFront (fun x taken => .ok { x.1 with
      signatureAlgorithmOid := Oid.ofContent x.2.algorithm.oid, encoding := taken })
    (SignedBytes.read_readsFront RevocationList.readBody) ?_ ?_ ?_
  · intro bs l hnone h
    rw [ofEncoding, readSigned, hnone] at h
    cases h
  · intro bs x rest hsome
    rw [ofEncoding, readSigned, hsome]
  · intro x taken l h
    cases h
    rfl

/-- Certificates and revocation lists keep the front of what they are read from, and they are read
from it again, whatever follows it. -/
theorem ofEncoding_trailing :
    (∀ d c, Certificate.ofEncoding d = .ok c →
      c.encoding <+: d ∧ (∀ t, Certificate.ofEncoding (d ++ t) = .ok c) ∧
        Certificate.ofEncoding c.encoding = .ok c) ∧
    ∀ d l, RevocationList.ofEncoding d = .ok l →
      l.encoding <+: d ∧ (∀ t, RevocationList.ofEncoding (d ++ t) = .ok l) ∧
        RevocationList.ofEncoding l.encoding = .ok l := by
  constructor
  · intro d c h
    exact ⟨Certificate.readsEncoding.front d c h, Certificate.readsEncoding.append h,
      Certificate.readsEncoding.alone h⟩
  · intro d l h
    exact ⟨RevocationList.readsEncoding.front d l h, RevocationList.readsEncoding.append h,
      RevocationList.readsEncoding.alone h⟩

/-- A list of the authority that names no certificate. -/
def vacantList : RevocationList :=
  { issuer := Armor.firstCertificate.subject
    thisUpdate := { seconds := 0 }
    nextUpdate := none
    revoked := []
    signatureAlgorithmOid := Identifiers.ed25519
    encoding := SignedBytes.short (AlgorithmId.ed25519 ++ Armor.firstCertificate.subject.encoding ++
      Timestamp.epoch) }

/-- Both are read in front of the encoding of the other. -/
theorem ofEncoding_trailing_joined :
    Certificate.ofEncoding Armor.firstCertificate.encoding = .ok Armor.firstCertificate ∧
      RevocationList.ofEncoding vacantList.encoding = .ok vacantList ∧
      Certificate.ofEncoding (Armor.firstCertificate.encoding ++ vacantList.encoding) =
        .ok Armor.firstCertificate ∧
      RevocationList.ofEncoding (vacantList.encoding ++ Armor.firstCertificate.encoding) =
        .ok vacantList := by
  have hcertificate : Certificate.ofEncoding Armor.firstCertificate.encoding =
      .ok Armor.firstCertificate := by cbv
  have hlist : RevocationList.ofEncoding vacantList.encoding = .ok vacantList := by cbv
  obtain ⟨hcertificates, hlists⟩ := ofEncoding_trailing
  exact ⟨hcertificate, hlist, (hcertificates _ _ hcertificate).2.1 _, (hlists _ _ hlist).2.1 _⟩

end CertAudit
