/- What is known of a certificate that has been read. -/
import CertAudit.Certificate.Source
import CertAudit.Proofs.Bytes
import CertAudit.Proofs.Der.Element
namespace CertAudit

/-- The encoding of a name that has been read is not empty. -/
theorem Name.encoding_ne_nil {bs rest : Bytes} {n : Name} (h : Name.read bs = some (n, rest)) :
    n.encoding ≠ [] := by
  obtain ⟨⟨content, rest'⟩, hcontent, h⟩ := Option.bind_eq_some_iff.mp h
  cases h
  obtain ⟨header, hne, rfl⟩ := Der.readContent_eq_append hcontent
  have hunread := Der.readMany_length_le readAttributes content
  have hheader := List.length_pos_iff.mpr hne
  rw [← List.length_pos_iff, List.length_take]
  simp only [List.length_append]
  omega

/-- The content of what a signature covers. -/
def SignedBytes.bodyIn? (bs : Bytes) : Option Bytes := do
  let (content, _) ← Der.readContent Der.Tag.sequence bs
  let (body, _) ← Der.readContent Der.Tag.sequence content
  some body

/-- What is signed has been read from that content. -/
theorem SignedBytes.exists_body_of_read {α : Type} {fields : Bytes → Option α} {bs rest : Bytes}
    {value : α} {signed : SignedBytes}
    (h : SignedBytes.read fields bs = some ((value, signed), rest)) :
    ∃ body, bodyIn? bs = some body ∧ fields body = some value := by
  simp only [SignedBytes.read, bind, Option.bind_eq_some_iff] at h
  obtain ⟨⟨content, _⟩, hcontent, ⟨body, _⟩, hbody, _, hvalue, _, _, _, _, h⟩ := h
  cases h
  refine ⟨body, ?_, hvalue⟩
  simp only [bodyIn?, hcontent, hbody, bind, Option.bind_some]

namespace Certificate

/-- Reading has given a certificate. -/
def IsRead (c : Certificate) : Prop := ∃ bs, ofEncoding bs = .ok c

theorem IsRead.of_ofBytes {bs : Bytes} {c : Certificate} (h : ofBytes bs = .ok c) : c.IsRead := by
  simp only [ofBytes] at h
  split at h
  · cases h
  · split at h
    · simp only [ofArmor] at h
      split at h
      · cases h
      · split at h
        · exact ⟨_, h⟩
        · cases h
    · exact ⟨bs, h⟩

/-- A certificate that has been read is made of fields that have. -/
theorem IsRead.exists_fields {c : Certificate} (h : c.IsRead) :
    ∃ bs body signed encoding, CertificateBody.read bs = some body ∧
      c = ofParts body signed encoding := by
  obtain ⟨bs, hencoding⟩ := h
  simp only [ofEncoding] at hencoding
  split at hencoding
  · cases hencoding
  · rename_i body signed rest hread
    split at hencoding
    · cases hencoding
    · cases hencoding
      obtain ⟨content, _, hbody⟩ := SignedBytes.exists_body_of_read hread
      exact ⟨content, body, _, _, hbody, rfl⟩

/-- Both names of a certificate that has been read are names that have. -/
theorem IsRead.exists_names {c : Certificate} (h : c.IsRead) :
    (∃ bs rest, Name.read bs = some (c.issuer, rest)) ∧
      ∃ bs rest, Name.read bs = some (c.subject, rest) := by
  obtain ⟨bs, body, signed, encoding, hbody, rfl⟩ := h.exists_fields
  simp only [CertificateBody.read, bind, Option.bind_eq_some_iff] at hbody
  obtain ⟨⟨_, _⟩, _, ⟨_, _⟩, _, ⟨_, _⟩, _, ⟨issuer, _⟩, hissuer, ⟨⟨_, _⟩, _⟩, _, ⟨subject, _⟩,
    hsubject, _, _, _, _, _, _, _, _, hbody⟩ := hbody
  cases hbody
  exact ⟨⟨_, _, hissuer⟩, ⟨_, _, hsubject⟩⟩

theorem IsRead.issuer_encoding_ne_nil {c : Certificate} (h : c.IsRead) :
    c.issuer.encoding ≠ [] := by
  obtain ⟨⟨_, _, hissuer⟩, _⟩ := h.exists_names
  exact Name.encoding_ne_nil hissuer

theorem IsRead.serial_stripped {c : Certificate} (h : c.IsRead) :
    Bytes.stripLeadingZeros c.serial = c.serial := by
  obtain ⟨bs, body, signed, encoding, _, rfl⟩ := h.exists_fields
  exact Bytes.stripLeadingZeros_idem body.serial

end Certificate

/-- The encoding of an element whose length fits one byte. -/
def Der.shortForm (tag : UInt8) (content : Bytes) : Bytes :=
  tag :: UInt8.ofNat content.length :: content

/-- A name with one short attribute: the content of its type, the tag of its text, and the text. -/
def Name.single (type : Bytes) (tag : UInt8) (text : String) : Name :=
  { attributes := [(Identifiers.nameIn Identifiers.attributeNames (Oid.ofContent type), text)]
    encoding := Der.shortForm 0x30 (Der.shortForm 0x31 (Der.shortForm 0x30
      (Der.shortForm 0x06 type ++ Der.shortForm tag (Bytes.ofString text)))) }

/-- The encoding of the algorithm of a key and a signature. -/
def AlgorithmId.ed25519 : Bytes := Der.shortForm 0x30 (Der.shortForm 0x06 [0x2b, 0x65, 0x70])

/-- The encoding of the first instant of 1970. -/
def Timestamp.epoch : Bytes := Der.shortForm 0x17 (Bytes.ofString "700101000000Z")

/-- The encoding of an element with some content in front of a signature. -/
def SignedBytes.short (content : Bytes) : Bytes :=
  Der.shortForm 0x30 (Der.shortForm 0x30 content ++ AlgorithmId.ed25519 ++ Der.shortForm 0x03 [0])

/-- A certificate of the first version with a short encoding, valid for an instant. -/
def Certificate.short (serial : UInt8) (issuer subject : Name) : Certificate :=
  { version := 1
    serial := [serial]
    signatureAlgorithm := "Ed25519"
    signatureAlgorithmOid := Identifiers.ed25519
    issuer
    subject
    notBefore := { seconds := 0 }
    notAfter := { seconds := 0 }
    publicKey := { algorithm := .ed25519 }
    extensions := []
    encoding := SignedBytes.short (Der.shortForm 0x02 [serial] ++ AlgorithmId.ed25519 ++
      issuer.encoding ++ Der.shortForm 0x30 (Timestamp.epoch ++ Timestamp.epoch) ++
      subject.encoding ++
      Der.shortForm 0x30 (AlgorithmId.ed25519 ++ Der.shortForm 0x03 [0])) }

end CertAudit
