/- What is kept for checking the signature of an answer is what the answer has been read from. -/
import CertAudit.Proofs.Revocation.Response.RoundTrip
namespace CertAudit

namespace Der

/-- Whether an element is tagged as an identifier. -/
def Element.isOid (e : Element) : Bool := e.tagClass == .universal && e.tag == Tag.oid

/-- The first identifier among the elements in some bytes. -/
def firstOid? (bs : Bytes) : Option String :=
  ((readMany read bs).1.find? Element.isOid).map fun e => Oid.ofContent e.content

theorem firstOid?_of_read {bs rest : Bytes} {e : Element} (h : read bs = some (e, rest))
    (hoid : e.isOid = true) : firstOid? bs = some (Oid.ofContent e.content) := by
  have hless : rest.length < bs.length := by
    obtain ⟨header, hne, rfl⟩ := read_eq_append h
    have := List.length_pos_iff.mpr hne
    simp only [List.length_append]
    omega
  rw [firstOid?, readMany, h]
  simp only [hless, if_true, List.find?_cons, hoid, Option.map_some]

end Der

namespace ResponseReader

variable {bs encoding : Bytes} {r : StatusResponse}

/-- The algorithm that is reported for an answer is the one that its signature is checked with, and
the first identifier in what is kept of it if its first element is one. -/
theorem Keeps.signatureAlgorithmOid (h : Keeps encoding r) :
    ∃ algorithm, Der.read r.signatureAlgorithm = some (algorithm, []) ∧
      r.signatureAlgorithmOid =
        (Der.read algorithm.content).map (fun read => Oid.ofContent read.1.content) ∧
      r.signatureAlgorithmOid =
        (AlgorithmId.ofEncoding? r.signatureAlgorithm).map (fun used => Oid.ofContent used.oid) ∧
      ∀ first rest, Der.read algorithm.content = some (first, rest) → first.isOid = true →
        r.signatureAlgorithmOid = Der.firstOid? algorithm.content := by
  obtain ⟨algorithm, hread, hname⟩ := h.algorithm
  refine ⟨algorithm, hread, hname, ?_, ?_⟩
  · simp only [hname, AlgorithmId.ofEncoding?, hread, bind, Option.bind_some]
    cases Der.read algorithm.content <;> rfl
  · intro first rest hfirst hoid
    rw [hname, Der.firstOid?_of_read hfirst hoid, hfirst]
    rfl

end ResponseReader

namespace StatusResponse
open ResponseReader

variable {bs : Bytes} {r : StatusResponse}

theorem exists_keeps_of_ofBytes (h : ofBytes bs = .ok r) (hdata : r.producedAt.isSome = true) :
    ∃ encoding, Decodes bs encoding ∧ Keeps encoding r := by
  obtain ⟨encoding, hdecodes, hresponse⟩ := exists_decodes_of_ofBytes h
  obtain ⟨code, rest, _, ⟨_, rfl⟩ | ⟨_, _, hkeeps⟩⟩ := response_cases hresponse
  · cases hdata
  · exact ⟨encoding, hdecodes, hkeeps⟩

/-- What the signature of an answer is checked over is a single element, and reading its content
gives all that the answer says; it stands in the input before the algorithm, a single element whose
first element is the reported identifier. -/
theorem ofBytes_keeps_signed (h : ofBytes bs = .ok r) (hdata : r.producedAt.isSome = true) :
    ∃ encoding, Decodes bs encoding ∧ r.body ++ r.signatureAlgorithm <:+: encoding ∧
      (∃ body t, Der.read r.body = some (body, []) ∧ r.producedAt = some t ∧
        data body.content = .ok (r.responder, t, r.responses)) ∧
      ∃ algorithm, Der.read r.signatureAlgorithm = some (algorithm, []) ∧
        r.signatureAlgorithmOid =
          (Der.read algorithm.content).map (fun read => Oid.ofContent read.1.content) ∧
        r.signatureAlgorithmOid =
          (AlgorithmId.ofEncoding? r.signatureAlgorithm).map (fun used => Oid.ofContent used.oid) ∧
        ∀ first rest, Der.read algorithm.content = some (first, rest) → first.isOid = true →
          r.signatureAlgorithmOid = Der.firstOid? algorithm.content := by
  obtain ⟨encoding, hdecodes, hkeeps⟩ := exists_keeps_of_ofBytes h hdata
  exact ⟨encoding, hdecodes, hkeeps.inside, hkeeps.data, hkeeps.signatureAlgorithmOid⟩

/-- An answer about no certificate, with the content of the algorithm of its signature. -/
def blankAnswer (signatureAlgorithm : Bytes) : Revocation.Answer :=
  { version := none
    keyHash := [1]
    producedAt := ⟨0, by decide⟩
    entries := []
    signatureAlgorithm
    signature := [2] }

/-- The content of an algorithm that begins with the identifier 1.2.3. -/
def plainAlgorithm : Bytes := Der.encode 0x06 [0x2a, 0x03]

/-- The content of an algorithm with a number in front of its identifier. -/
def numberedAlgorithm : Bytes := Der.encode 0x02 [0x2a, 0x03] ++ Der.encode 0x06 [0x2b, 0x65, 0x70]

theorem ofBytes_blankAnswer_plainAlgorithm :
    ofBytes (blankAnswer plainAlgorithm).encoding = .ok (blankAnswer plainAlgorithm).meaning := by
  have hfits : (blankAnswer plainAlgorithm).encoding.length < UInt64.size := by decide +kernel
  exact ofBytes_of_response (response_encoding hfits)

theorem ofBytes_keeps_signed_plainAlgorithm :
    ∃ r algorithm, ofBytes (blankAnswer plainAlgorithm).encoding = .ok r ∧
      r.producedAt.isSome = true ∧ Der.read r.signatureAlgorithm = some (algorithm, []) ∧
      r.signatureAlgorithmOid = Der.firstOid? algorithm.content := by
  obtain ⟨_, _, _, _, algorithm, hread, _, _, hfirst⟩ :=
    ofBytes_keeps_signed ofBytes_blankAnswer_plainAlgorithm rfl
  have helement : Der.read (blankAnswer plainAlgorithm).meaning.signatureAlgorithm =
      some (Der.elementOf 0x30 plainAlgorithm, []) := by decide
  refine ⟨_, algorithm, ofBytes_blankAnswer_plainAlgorithm, rfl, hread, ?_⟩
  rw [helement] at hread
  cases hread
  exact hfirst (Der.elementOf 0x06 [0x2a, 0x03]) [] (by decide) (by decide)

/-- A number in front of the identifier is reported as if it were one. -/
theorem signatureAlgorithmOid_numberedAlgorithm :
    ∃ r algorithm, ofBytes (blankAnswer numberedAlgorithm).encoding = .ok r ∧
      r.producedAt.isSome = true ∧ Der.read r.signatureAlgorithm = some (algorithm, []) ∧
      Der.firstOid? algorithm.content = some "1.3.101.112" ∧
      r.signatureAlgorithmOid = some "1.2.3" := by
  have hfits : (blankAnswer numberedAlgorithm).encoding.length < UInt64.size := by decide +kernel
  have helement : Der.read (blankAnswer numberedAlgorithm).meaning.signatureAlgorithm =
      some (Der.elementOf 0x30 numberedAlgorithm, []) := by decide
  refine ⟨_, _, ofBytes_of_response (response_encoding hfits), rfl, helement, ?_, ?_⟩
  · cbv
  · decide

end StatusResponse
end CertAudit
