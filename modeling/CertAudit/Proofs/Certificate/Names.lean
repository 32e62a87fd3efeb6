/- The encoding of a name that has been read fixes its attributes, so a certificate cannot encode
its subject and its issuer alike and show different names. -/
import CertAudit.Proofs.Certificate.Reading
import CertAudit.Proofs.Der.Front
namespace CertAudit

namespace Name

/-- The attributes that the encoding of a name holds. -/
def attributesIn (encoding : Bytes) : List (String × String) :=
  match Der.readOpenHeader encoding with
  | some (_, sets) => (Der.readMany readAttributes sets).1.flatten
  | none => []

/-- A set is read as the attributes it holds, if it holds any. -/
theorem readAttributes_eq : readAttributes = fun bs =>
    (Der.readContent Der.Tag.set bs).bind fun read =>
      if (Der.readMany readAttribute read.1).1 = [] then none
      else some ((Der.readMany readAttribute read.1).1, read.2) := by
  funext bs
  simp only [readAttributes, bind]
  congr 1
  funext read
  split
  · rename_i hnil
    rw [if_pos hnil]
  · rename_i hsome
    rw [if_neg hsome]

theorem readAttributes_readsFront : Der.ReadsFront readAttributes := by
  rw [readAttributes_eq]
  exact (Der.readContent_readsFront Der.Tag.set).bind fun content =>
    Der.readsFront_none.ite (Der.readsFront_some (Der.readMany readAttribute content).1)
      ((Der.readMany readAttribute content).1 = [])

theorem attributes_eq_attributesIn {bs rest : Bytes} {n : Name} (h : read bs = some (n, rest)) :
    n.attributes = attributesIn n.encoding := by
  obtain ⟨⟨content, rest'⟩, hcontent, h⟩ := Option.bind_eq_some_iff.mp h
  cases h
  obtain ⟨front, header, rfl, hheader⟩ := Der.exists_header_of_readContent hcontent
  obtain ⟨sets, hsets, hmany⟩ := Der.readMany_front readAttributes_readsFront content
  generalize Der.readMany readAttributes content = found at hsets hmany ⊢
  subst hsets
  -- The encoding ends where the sets that could be read end.
  have hencoding : (front ++ (sets ++ found.2 ++ rest)).take ((front ++ (sets ++ found.2 ++
      rest)).length - rest.length - found.2.length) = front ++ sets := by
    rw [List.append_assoc, ← List.append_assoc front]
    refine List.take_left' ?_
    simp only [List.length_append]
    omega
  simp only [attributesIn, hencoding, hheader, hmany]

end Name

namespace Certificate

/-- A certificate that encodes its subject as it encodes its issuer shows them alike. -/
def NamesAgree (c : Certificate) : Prop :=
  c.subject.encoding ≠ [] → c.subject.encoding = c.issuer.encoding →
    c.subject.attributes = c.issuer.attributes

variable {c : Certificate}

/-- Reading takes the attributes of both names from their encodings. -/
theorem IsRead.namesAgree (h : c.IsRead) : c.NamesAgree := by
  obtain ⟨⟨_, _, hissuer⟩, ⟨_, _, hsubject⟩⟩ := h.exists_names
  intro _ heq
  rw [Name.attributes_eq_attributesIn hsubject, Name.attributes_eq_attributesIn hissuer, heq]

theorem NamesAgree.subjectLine_eq (h : c.NamesAgree) (hself : c.isSelfIssued = true) :
    c.subjectLine = c.issuerLine := by
  simp only [isSelfIssued, sameName] at hself
  split at hself
  · rename_i hencoded
    have hsubject : c.subject.encoding ≠ [] := by
      intro hnil
      simp [hnil] at hencoded
    have hattributes := h hsubject (by simpa using hself)
    simp only [subjectLine, issuerLine, Name.oneLine, hattributes]
  · exact beq_iff_eq.mp hself

end Certificate
end CertAudit
