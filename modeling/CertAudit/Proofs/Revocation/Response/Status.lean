/- When an answer counts as successful, and when it holds more than its status. -/
import CertAudit.Operator
import CertAudit.Proofs.Revocation.Response.RoundTrip
namespace CertAudit

theorem ResponseStatus.ofCode_eq_successful_iff {code : Nat} :
    ofCode code = .successful ↔ code = 0 := by
  constructor
  · intro h
    unfold ofCode at h
    split at h <;> cases h
    rfl
  · rintro rfl
    rfl

namespace ResponseReader

variable {bs code rest : Bytes} {r : StatusResponse}

/-- The content of a status is that of a success if it is empty or its last byte is zero. -/
theorem statusIn_eq_successful_iff :
    statusIn code = .successful ↔ code = [] ∨ code.getLast? = some 0 := by
  rw [statusIn, ResponseStatus.ofCode_eq_successful_iff]
  rcases List.eq_nil_or_concat code with rfl | ⟨front, b, rfl⟩
  · simp
  · simpa using UInt8.toNat_inj (b := 0)

/-- An answer has a date just where it is successful and bytes follow its status; without one it is
nothing but a status. -/
theorem response_status (h : response bs = .ok r) :
    ∃ code rest, HasStatus bs code rest ∧ r.status = statusIn code ∧
      (r.producedAt ≠ none ↔ r.status = .successful ∧ rest ≠ []) ∧
      (r.producedAt = none → r = { status := r.status }) := by
  obtain ⟨code, rest, hstatus, ⟨hbare, rfl⟩ | ⟨hsuccessful, hrest, hkeeps⟩⟩ := response_cases h
  · refine ⟨code, rest, hstatus, rfl, ⟨fun hdate => absurd rfl hdate, ?_⟩, fun _ => rfl⟩
    rintro ⟨hsuccessful, hrest⟩
    rcases hbare with hfailed | hnil
    · exact absurd hsuccessful hfailed
    · exact absurd hnil hrest
  · obtain ⟨body, t, _, hdate, _⟩ := hkeeps.data
    refine ⟨code, rest, hstatus, hkeeps.status.trans hsuccessful.symm, ?_, ?_⟩
    · simp [hdate, hkeeps.status, hrest]
    · intro hnone
      rw [hdate] at hnone
      cases hnone

end ResponseReader

namespace StatusResponse
open ResponseReader

variable {bs : Bytes} {r : StatusResponse} {ctx : Context}

theorem evaluate_ocspValid_of_bare {status : ResponseStatus}
    (h : ctx.responses = [{ status }]) (target : Option Node) (operands : List Value) :
    Operator.ocspValid.evaluate target ctx operands = .ok (status == .successful) := by
  simp [Operator.evaluate, Operator.judgeResponses, h, isSuccessful]

/-- An answer is successful just where the content of its status is empty or ends in zero, and holds
more than the status just where bytes follow it then. An answer without a date counts as valid if it
is successful. -/
theorem ofBytes_status (h : ofBytes bs = .ok r) :
    ∃ encoding code rest, Decodes bs encoding ∧ HasStatus encoding code rest ∧
      (r.isSuccessful = true ↔ code = [] ∨ code.getLast? = some 0) ∧
      (r.producedAt ≠ none ↔ r.isSuccessful = true ∧ rest ≠ []) ∧
      (r.producedAt = none → r = { status := r.status } ∧
        ∀ ctx : Context, ctx.responses = [r] → ∀ target operands,
          Operator.ocspValid.evaluate target ctx operands = .ok r.isSuccessful) := by
  obtain ⟨encoding, hdecodes, hresponse⟩ := exists_decodes_of_ofBytes h
  obtain ⟨code, rest, hstatus, hcode, hdate, hbare⟩ := response_status hresponse
  have hsuccessful : r.isSuccessful = true ↔ r.status = .successful := beq_iff_eq
  refine ⟨encoding, code, rest, hdecodes, hstatus, ?_, ?_, ?_⟩
  · rw [hsuccessful, hcode, statusIn_eq_successful_iff]
  · rw [hsuccessful, hdate]
  · intro hnone
    refine ⟨hbare hnone, fun ctx hresponses target operands => ?_⟩
    rw [hbare hnone] at hresponses
    exact evaluate_ocspValid_of_bare hresponses target operands

/-- The encoding of a status alone. -/
def bareEncoding (code : Bytes) : Bytes := Der.encode 0x30 (Der.encode 0x0a code)

theorem ofBytes_bareEncoding {code : Bytes} (h : Der.Fits (bareEncoding code)) :
    ofBytes (bareEncoding code) = .ok { status := statusIn code } := by
  apply ofBytes_of_response
  simp only [response, bareEncoding, expect_encode_end isUniversal_sequence h.inner, ok_bind,
    Der.elementOf_content, expect_encode_end isUniversal_enumerated h.inner.inner,
    List.isEmpty_nil, or_true, if_true]
  rfl

/-- An audit with one answer. -/
def answeredContext (r : StatusResponse) : Context :=
  { root := .mk "" none [], now := { seconds := 0 }, responses := [r] }

theorem ofBytes_status_tryLater :
    ofBytes [0x30, 0x03, 0x0a, 0x01, 0x03] = .ok { status := .tryLater } ∧
      Operator.ocspValid.evaluate none (answeredContext { status := .tryLater }) [] =
        .ok false := by
  have hread : ofBytes [0x30, 0x03, 0x0a, 0x01, 0x03] = .ok { status := .tryLater } :=
    ofBytes_bareEncoding (show (bareEncoding [3]).length < UInt64.size by decide)
  obtain ⟨_, _, _, _, _, _, _, hbare⟩ := ofBytes_status hread
  exact ⟨hread, (hbare rfl).2 _ rfl none []⟩

/-- A success without anything behind it counts as valid, also where its code is missing or has two
bytes of which the first is not zero. -/
theorem ocspValid_successful_bare :
    ofBytes [0x30, 0x03, 0x0a, 0x01, 0x00] = .ok { status := .successful } ∧
      ofBytes [0x30, 0x02, 0x0a, 0x00] = .ok { status := .successful } ∧
      ofBytes [0x30, 0x04, 0x0a, 0x02, 0x01, 0x00] = .ok { status := .successful } ∧
      Operator.ocspValid.evaluate none (answeredContext { status := .successful }) [] =
        .ok true := by
  refine ⟨?_, ?_, ?_, rfl⟩
  · exact ofBytes_bareEncoding (show (bareEncoding [0]).length < UInt64.size by decide)
  · exact ofBytes_bareEncoding (show (bareEncoding []).length < UInt64.size by decide)
  · exact ofBytes_bareEncoding (show (bareEncoding [1, 0]).length < UInt64.size by decide)

end StatusResponse
end CertAudit
