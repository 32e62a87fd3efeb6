/- The base64 text of an answer is read like the answer. No such text can be taken for an encoding,
since it begins with a blank or with a letter whose byte is of another class than a sequence. -/
import CertAudit.Proofs.Revocation.Response.Signed
import CertAudit.Proofs.Text.Base64
namespace CertAudit

namespace ResponseReader

variable {bs text rest : Bytes} {b : UInt8} {e : Der.Element} {r : StatusResponse}

/-- A sequence begins with a universal byte that is no blank. -/
theorem Begins.first (h : Begins Der.Tag.sequence bs e rest) :
    ∃ b more, bs = b :: more ∧ Der.classOf b = .universal ∧ Bytes.isBlank b = false := by
  obtain ⟨b, more, rfl, hclass, hnumber⟩ := Der.exists_identifier_of_read h.read
  rw [h.tag] at hnumber
  refine ⟨b, more, rfl, hclass.trans h.tagClass, ?_⟩
  by_contra hblank
  rw [Bool.not_eq_false] at hblank
  simp only [Bytes.isBlank, Bool.or_eq_true, beq_iff_eq] at hblank
  rcases hblank with (((rfl | rfl) | rfl) | rfl) | rfl <;> exact absurd hnumber (by decide)

/-- The upper bits of a universal byte are those of one of the first letters. -/
theorem classOf_digit (h : Der.classOf b = .universal) :
    Der.classOf (Base64.digit (b.toNat / 4)) = .application := by
  have hletters : ∀ n < 16, Der.classOf (Base64.digit n) = .application := by decide
  refine hletters _ ?_
  by_contra hlarge
  have hb := b.toNat_lt
  have hupper : b.toNat / 64 = 1 ∨ b.toNat / 64 = 2 ∨ b.toNat / 64 = 3 := by omega
  unfold Der.classOf at h
  rcases hupper with hupper | hupper | hupper <;> rw [hupper] at h <;> cases h

theorem exists_begins_of_response (h : response bs = .ok r) :
    ∃ e rest, Begins Der.Tag.sequence bs e rest := by
  obtain ⟨_, _, ⟨outer, tail, _, houter, _, _⟩, _⟩ := response_cases h
  exact ⟨outer, tail, houter⟩

/-- The base64 text of a sequence does not begin with a sequence. -/
theorem not_begins_of_spaced (h : Begins Der.Tag.sequence bs e rest)
    (ht : Base64.Spaced (Base64.encode bs) text) (e' : Der.Element) (rest' : Bytes) :
    ¬ Begins Der.Tag.sequence text e' rest' := by
  intro htext
  obtain ⟨b, more, rfl, hclass, _⟩ := h.first
  obtain ⟨sign, others, rfl, hsign, hblank⟩ := htext.first
  obtain ⟨signs, hencode⟩ := Base64.exists_encode_cons b more
  rw [hencode] at ht
  rcases ht.head with hfirst | hfirst
  · rw [hfirst] at hblank
    cases hblank
  · cases hfirst
    rw [classOf_digit hclass] at hsign
    cases hsign

end ResponseReader

namespace StatusResponse
open ResponseReader

variable {d text : Bytes} {r : StatusResponse}

/-- An answer is read from its base64, whatever blanks stand in the text, as it is read from its
encoding, and no such text is the encoding of an answer itself. -/
theorem ofBytes_base64 (h : response d = .ok r) (ht : Base64.Spaced (Base64.encode d) text) :
    ofBytes text = ofBytes d ∧ ofBytes d = .ok r ∧ ∀ r', response text ≠ .ok r' := by
  obtain ⟨e, rest, hbegins⟩ := exists_begins_of_response h
  have hnot : ∀ r', response text ≠ .ok r' := by
    intro r' htext
    obtain ⟨e', rest', hbegins'⟩ := exists_begins_of_response htext
    exact not_begins_of_spaced hbegins ht e' rest' hbegins'
  -- An empty body is not taken for base64, but an encoding has its first byte at least.
  have hdecoded : Base64.decodeBody? text = some d := by
    obtain ⟨b, more, rfl, _⟩ := hbegins.first
    exact Base64.decodeBody?_of_spaced ht (List.cons_ne_nil b more)
  have hd : ofBytes d = .ok r := ofBytes_of_response h
  refine ⟨?_, hd, hnot⟩
  rw [hd, ofBytes]
  cases htext : response text with
  | ok r' => exact absurd htext (hnot r')
  | error fault =>
    simp only [hdecoded, h]
    rfl

/-- The base64 of an answer about no certificate in lines that are indented. -/
def indentedText : Bytes :=
  let signs := Base64.encode (blankAnswer plainAlgorithm).encoding
  0x09 :: signs.take 63 ++ (0x0d :: 0x0a :: 0x20 :: signs.drop 63 ++ [0x0a])

theorem ofBytes_base64_indentedText :
    response (blankAnswer plainAlgorithm).encoding = .ok (blankAnswer plainAlgorithm).meaning ∧
      Base64.Spaced (Base64.encode (blankAnswer plainAlgorithm).encoding) indentedText ∧
      ofBytes indentedText = .ok (blankAnswer plainAlgorithm).meaning := by
  have hfits : (blankAnswer plainAlgorithm).encoding.length < UInt64.size := by decide +kernel
  have hresponse := response_encoding hfits
  have hspaced : Base64.Spaced (Base64.encode (blankAnswer plainAlgorithm).encoding)
      indentedText := by
    rw [Base64.spaced_iff fun b hb => (Base64.isSign_of_mem_encode hb).not_blank]
    decide +kernel
  obtain ⟨htext, hd, _⟩ := ofBytes_base64 hresponse hspaced
  exact ⟨hresponse, hspaced, htext.trans hd⟩

end StatusResponse
end CertAudit
