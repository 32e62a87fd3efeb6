/- A successful answer that has been encoded is read back. -/
import CertAudit.Proofs.Revocation.Response.Encoding
import CertAudit.Proofs.Revocation.Response.Reading
namespace CertAudit
namespace Revocation

/-- The names of the reasons by their codes. The code 7 is not assigned. -/
def reasonNames : Vector String 11 :=
  #v["unspecified", "keyCompromise", "cACompromise", "affiliationChanged", "superseded",
    "cessationOfOperation", "certificateHold", "unspecified", "removeFromCRL",
    "privilegeWithdrawn", "aACompromise"]

/-- What is read from what a service says of a certificate. -/
def Standing.meaning : Standing → CertificateStatus
  | good => .good
  | revoked time reason => .revoked time.timestamp (reason.map reasonNames.get)
  | unknown => .unknown

/-- What is read from an answer about one certificate. -/
def Entry.meaning (e : Entry) : SingleResponse :=
  { hashAlgorithm := match e.algorithm with
      | .sha1 => Identifiers.digestSha1
      | .sha256 => Identifiers.digestSha256
      | .sha384 => Identifiers.digestSha384
      | .sha512 => Identifiers.digestSha512
    issuerNameHash := e.issuerNameHash
    issuerKeyHash := e.issuerKeyHash
    serial := Bytes.shortest e.serial
    status := e.standing.meaning
    thisUpdate := e.thisUpdate.timestamp
    nextUpdate := e.nextUpdate.map WholeSecond.timestamp }

/-- What is read from a signed answer. What is signed and the algorithm are kept as they are. -/
def Answer.meaning (a : Answer) : StatusResponse :=
  { status := .successful
    responder := some (.key a.keyHash)
    producedAt := some a.producedAt.timestamp
    responses := a.entries.map Entry.meaning
    signatureAlgorithmOid :=
      (Der.read a.signatureAlgorithm).map fun read => Oid.ofContent read.1.content
    signatureAlgorithm := Der.encode 0x30 a.signatureAlgorithm
    signature := a.signature
    body := Der.encode 0x30 a.bodyContent }

end Revocation

namespace ResponseReader
open Revocation

variable {identifier : UInt8} {content rest : Bytes} {tag : Nat} {what : String}

theorem ok_bind {ε α β : Type} (x : α) (f : α → Except ε β) : Except.ok x >>= f = f x := rfl

theorem next_encode (hidentifier : identifier.toNat % 32 ≠ 31) (h : Der.Fits content)
    (rest : Bytes) :
    next (Der.encode identifier content ++ rest) = .ok (Der.elementOf identifier content, rest) := by
  simp only [next, Der.read_encode hidentifier h]

theorem next_encode_end (hidentifier : identifier.toNat % 32 ≠ 31) (h : Der.Fits content) :
    next (Der.encode identifier content) = .ok (Der.elementOf identifier content, []) := by
  simpa only [List.append_nil] using next_encode hidentifier h []

/-- An identifier stands for a universal tag of one byte. -/
def IsUniversal (identifier : UInt8) (tag : Nat) : Prop :=
  Der.classOf identifier = .universal ∧ identifier.toNat % 32 = tag ∧ tag ≠ 31
deriving Decidable

theorem expect_encode (hidentifier : IsUniversal identifier tag) (h : Der.Fits content)
    (rest : Bytes) :
    expect tag what (Der.encode identifier content ++ rest) =
      .ok (Der.elementOf identifier content, rest) := by
  obtain ⟨hclass, rfl, hlong⟩ := hidentifier
  simp only [expect, next_encode hlong h, ok_bind, Der.elementOf, hclass, and_self, if_true]

theorem expect_encode_end (hidentifier : IsUniversal identifier tag) (h : Der.Fits content) :
    expect tag what (Der.encode identifier content) =
      .ok (Der.elementOf identifier content, []) := by
  simpa only [List.append_nil] using expect_encode hidentifier h []

theorem isContext_zero (content : Bytes) : isContext (Der.elementOf 0xa0 content) 0 = true := rfl

theorem time_compactChars (t : WholeSecond) :
    time (Bytes.ofString (String.ofList (t.compactChars ++ ['Z']))) = .ok t.timestamp := by
  have hplain : beforePoint t.compactChars = t.compactChars := by
    refine List.takeWhile_eq_self_iff.mpr fun c hc => bne_iff_ne.mpr ?_
    rintro rfl
    exact absurd (WholeSecond.isDigit_of_mem_compactChars hc) (by decide)
  have hzulu : dropZulu (t.compactChars ++ ['Z']) = t.compactChars := by
    simp [dropZulu]
  simp only [time, Bytes.toString?_ofString, String.toList_ofList, hzulu, hplain,
    WholeSecond.ofCompact?_compactChars]

theorem isUniversal_sequence : IsUniversal 0x30 Der.Tag.sequence := by decide

theorem isUniversal_octetString : IsUniversal 0x04 Der.Tag.octetString := by decide

theorem isUniversal_integer : IsUniversal 0x02 Der.Tag.integer := by decide

theorem isUniversal_bitString : IsUniversal 0x03 Der.Tag.bitString := by decide

theorem isUniversal_oid : IsUniversal 0x06 Der.Tag.oid := by decide

theorem isUniversal_enumerated : IsUniversal 0x0a Der.Tag.enumerated := by decide

theorem isUniversal_generalizedTime : IsUniversal 0x18 Der.Tag.generalizedTime := by decide

/-- A time is read in two steps, its content first. -/
theorem exists_readTime_encoding {t : WholeSecond} (h : Der.Fits t.encoding) (what : String)
    (rest : Bytes) :
    ∃ content, readTime what (t.encoding ++ rest) = .ok (content, rest) ∧
      time content = .ok t.timestamp := by
  refine ⟨_, ?_, time_compactChars t⟩
  rw [readTime, WholeSecond.encoding, expect_encode isUniversal_generalizedTime h.inner]
  rfl

theorem reasonName_eq : ∀ code : Fin 11, reasonName (UInt8.ofNat code).toNat = reasonNames.get code := by
  decide

theorem reason?_reasonEncoding {reason : Option (Fin 11)}
    (h : Der.Fits (Standing.reasonEncoding reason)) :
    reason? (Standing.reasonEncoding reason) = reason.map reasonNames.get := by
  cases reason with
  | none => rfl
  | some code =>
    have htagged : next (Standing.reasonEncoding (some code)) =
        .ok (Der.elementOf 0xa0 (Der.encode 0x0a [UInt8.ofNat code]), []) :=
      next_encode_end (by decide) h.inner
    have hcode : expect Der.Tag.enumerated "revocationReason"
        (Der.encode 0x0a [UInt8.ofNat code]) =
          .ok (Der.elementOf 0x0a [UInt8.ofNat code], []) :=
      expect_encode_end isUniversal_enumerated h.inner.inner
    rw [reason?, htagged]
    dsimp only
    rw [if_pos (isContext_zero _), Der.elementOf_content, hcode]
    exact congrArg some (reasonName_eq code)

theorem status_encoding {standing : Standing} (h : Der.Fits standing.encoding) :
    ∃ field, (∀ rest, next (standing.encoding ++ rest) = .ok (field, rest)) ∧
      status field = .ok standing.meaning := by
  cases standing with
  | good => exact ⟨_, next_encode (by decide) h.inner, rfl⟩
  | unknown => exact ⟨_, next_encode (by decide) h.inner, rfl⟩
  | revoked t reason =>
    refine ⟨_, next_encode (by decide) h.inner, ?_⟩
    obtain ⟨content, hread, htime⟩ :=
      exists_readTime_encoding h.inner.left "revocationTime" (Standing.reasonEncoding reason)
    have hreason := reason?_reasonEncoding h.inner.right
    change (readTime "revocationTime" (t.encoding ++ Standing.reasonEncoding reason) >>= _) = _
    rw [hread, ok_bind]
    dsimp only
    rw [hreason, htime, ok_bind]
    rfl

theorem nextUpdate_nextEncoding {next : Option WholeSecond}
    (h : Der.Fits (Entry.nextEncoding next)) :
    nextUpdate none (Entry.nextEncoding next) = .ok (next.map WholeSecond.timestamp) := by
  cases next with
  | none =>
    rw [nextUpdate]
    rfl
  | some t =>
    obtain ⟨content, hread, htime⟩ := exists_readTime_encoding h.inner "nextUpdate" []
    have hfield : ResponseReader.next (Der.encode 0xa0 t.encoding) =
        .ok (Der.elementOf 0xa0 t.encoding, []) := next_encode_end (by decide) h.inner
    rw [List.append_nil] at hread
    have hmore : (Der.encode 0xa0 t.encoding).isEmpty = false := rfl
    have hless : ([] : Bytes).length < (Der.encode 0xa0 t.encoding).length := Nat.succ_pos _
    rw [nextUpdate, Entry.nextEncoding, hfield]
    simp only [hmore, Bool.false_eq_true, if_false, hless, if_true, isContext_zero,
      Der.elementOf_content, hread, htime]
    rw [nextUpdate]
    rfl

theorem stripLeadingZeros_naturalContent (n : Nat) :
    Bytes.stripLeadingZeros (Der.naturalContent n) = Bytes.shortest n := by
  simp only [Der.naturalContent]
  split
  · exact Bytes.stripLeadingZeros_shortest n
  · exact Bytes.stripLeadingZeros_zero_cons_shortest n

theorem single_content {e : Entry} (h : Der.Fits e.content) :
    single e.content = .ok e.meaning := by
  have hid := h.left.inner
  obtain ⟨field, hfield, hstatus⟩ := status_encoding h.right.left
  obtain ⟨content, hread, htime⟩ := exists_readTime_encoding h.right.right.left "thisUpdate"
    (Entry.nextEncoding e.nextUpdate)
  have hnext := nextUpdate_nextEncoding h.right.right.right
  have hoid : Oid.ofContent e.algorithm.content = e.meaning.hashAlgorithm := by
    simp only [Entry.meaning]
    cases e.algorithm <;> decide
  simp only [single, Entry.content, Entry.idEncoding, ok_bind, Der.elementOf_content,
    expect_encode isUniversal_sequence hid, expect_encode isUniversal_sequence hid.left.inner,
    expect_encode isUniversal_oid hid.left.inner.left.inner,
    expect_encode isUniversal_octetString hid.right.left.inner,
    expect_encode isUniversal_octetString hid.right.right.left.inner,
    expect_encode_end isUniversal_integer hid.right.right.right.inner, hfield, hstatus, hread,
    htime, hnext, hoid, stripLeadingZeros_naturalContent]
  rfl

theorem singles_encoding {entries : List Entry} (h : Der.Fits (entries.flatMap Entry.encoding)) :
    singles (entries.flatMap Entry.encoding) = .ok (entries.map Entry.meaning) := by
  induction entries with
  | nil =>
    rw [singles]
    rfl
  | cons e entries ih =>
    rw [List.flatMap_cons] at h ⊢
    have hmore : (e.encoding ++ entries.flatMap Entry.encoding).isEmpty = false := rfl
    have hless : (entries.flatMap Entry.encoding).length <
        (e.encoding ++ entries.flatMap Entry.encoding).length := by
      simp only [Entry.encoding, Der.encode, List.cons_append, List.length_cons, List.length_append]
      omega
    have hfront : expect Der.Tag.sequence "SingleResponse"
        (e.encoding ++ entries.flatMap Entry.encoding) =
          .ok (Der.elementOf 0x30 e.content, entries.flatMap Entry.encoding) :=
      expect_encode isUniversal_sequence h.left.inner _
    rw [singles]
    simp only [hmore, Bool.false_eq_true, if_false, hfront, hless, if_true,
      Der.elementOf_content, single_content h.left.inner, ih h.right, List.map_cons]

theorem responder_key {keyHash : Bytes} (h : Der.Fits (Der.encode 0x04 keyHash)) :
    responder (Der.elementOf 0xa2 (Der.encode 0x04 keyHash)) = .ok (some (.key keyHash)) := by
  change (expect Der.Tag.octetString "responder key hash" (Der.encode 0x04 keyHash) >>= _) = _
  rw [expect_encode_end isUniversal_octetString h.inner]
  rfl

theorem data_bodyContent {a : Answer} (h : Der.Fits a.bodyContent) :
    data a.bodyContent =
      .ok (some (.key a.keyHash), a.producedAt.timestamp, a.entries.map Entry.meaning) := by
  obtain ⟨hversion, hkey, hproduced, hentries⟩ :
      Der.Fits (Answer.versionEncoding a.version) ∧
        Der.Fits (Der.encode 0xa2 (Der.encode 0x04 a.keyHash)) ∧
        Der.Fits a.producedAt.encoding ∧
        Der.Fits (Der.encode 0x30 (a.entries.flatMap Entry.encoding)) :=
    ⟨h.left, h.right.left, h.right.right.left, h.right.right.right⟩
  obtain ⟨content, hread, htime⟩ := exists_readTime_encoding hproduced "producedAt"
    (Der.encode 0x30 (a.entries.flatMap Entry.encoding))
  have hfield := next_encode (show (0xa2 : UInt8).toNat % 32 ≠ 31 by decide) hkey.inner
  have hplain : isContext (Der.elementOf 0xa2 (Der.encode 0x04 a.keyHash)) 0 = false := rfl
  simp only [data, Answer.bodyContent]
  cases hcase : a.version with
  | none =>
    simp only [Answer.versionEncoding, List.nil_append, hfield, ok_bind, hplain,
      Bool.false_eq_true, if_false, responder_key hkey.inner, hread, htime,
      expect_encode_end isUniversal_sequence hentries.inner, Der.elementOf_content,
      singles_encoding hentries.inner]
  | some n =>
    rw [hcase] at hversion
    have hfirst := next_encode (show (0xa0 : UInt8).toNat % 32 ≠ 31 by decide) hversion.inner
    simp only [Answer.versionEncoding, hfirst, hfield, ok_bind, isContext_zero, if_true,
      responder_key hkey.inner, hread, htime,
      expect_encode_end isUniversal_sequence hentries.inner, Der.elementOf_content,
      singles_encoding hentries.inner]

theorem basic_basicEncoding {a : Answer} (h : Der.Fits a.basicEncoding) :
    basic a.basicEncoding = .ok a.meaning := by
  have hbody := next_encode (show (0x30 : UInt8).toNat % 32 ≠ 31 by decide) h.inner.left.inner
  have halgorithm :=
    next_encode (show (0x30 : UInt8).toNat % 32 ≠ 31 by decide) h.inner.right.left.inner
  have hattached : attached [] = .ok [] := rfl
  simp only [basic, Answer.basicEncoding, expect_encode_end isUniversal_sequence h.inner, ok_bind,
    Der.elementOf_content, hbody, halgorithm,
    expect_encode_end isUniversal_bitString h.inner.right.right.inner, hattached,
    data_bodyContent h.inner.left.inner, taken_append]
  rfl

theorem response_encoding {a : Answer} (h : Der.Fits a.encoding) :
    response a.encoding = .ok a.meaning := by
  have henvelope := h.inner.right
  have htype := henvelope.inner.inner.left
  have hpayload := henvelope.inner.inner.right
  have htagged := next_encode_end (show (0xa0 : UInt8).toNat % 32 ≠ 31 by decide) henvelope.inner
  have hsuccessful : ResponseStatus.ofCode (([0] : Bytes).getLastD 0).toNat = .successful := rfl
  have hmore : ∀ bs, (Der.encode 0xa0 bs).isEmpty = false := fun _ => rfl
  have hoid : Oid.ofContent [0x2b, 0x06, 0x01, 0x05, 0x05, 0x07, 0x30, 0x01, 0x01] =
      Identifiers.ocspBasic := by decide
  simp only [response, Answer.encoding, expect_encode_end isUniversal_sequence h.inner, ok_bind,
    Der.elementOf_content, expect_encode isUniversal_enumerated h.inner.left.inner, hsuccessful,
    hmore, ne_eq, not_true, Bool.false_eq_true, or_self, if_false, htagged, isContext_zero,
    Bool.not_true, expect_encode_end isUniversal_sequence henvelope.inner.inner,
    expect_encode isUniversal_oid htype.inner,
    expect_encode_end isUniversal_octetString hpayload.inner, hoid,
    basic_basicEncoding hpayload.inner]

end ResponseReader

namespace StatusResponse
open Revocation

theorem ofBytes_of_response {bs : Bytes} {r : StatusResponse}
    (h : ResponseReader.response bs = .ok r) : ofBytes bs = .ok r := by
  simp only [ofBytes, h]

/-- The encoding of a successful answer decodes to what it says of each certificate, in order. -/
theorem ofBytes_encoding (a : Answer) (h : Der.Fits a.encoding) :
    ofBytes a.encoding = .ok a.meaning :=
  ofBytes_of_response (ResponseReader.response_encoding h)

/-- A certificate is fine, another is revoked for a superseded key, and a third is not known. -/
def mixedAnswer : Answer :=
  let entry : Entry :=
    { algorithm := .sha1
      parameters := Der.encode 0x05 []
      issuerNameHash := [1]
      issuerKeyHash := [2]
      serial := 300
      standing := .good
      thisUpdate := ⟨1700000000, by decide⟩
      nextUpdate := some ⟨1700604800, by decide⟩ }
  { version := some 0
    keyHash := [2]
    producedAt := ⟨1700000000, by decide⟩
    entries := [
      entry,
      { entry with serial := 128, standing := .revoked ⟨951782400, by decide⟩ (some 4) },
      { entry with serial := 0, standing := .unknown, nextUpdate := none }]
    signatureAlgorithm := Der.encode 0x06 [0x2b, 0x65, 0x70]
    signature := [3] }

theorem ofBytes_encoding_mixedAnswer :
    Der.Fits mixedAnswer.encoding ∧
      ∃ r, ofBytes mixedAnswer.encoding = .ok r ∧ r.isSuccessful = true ∧
        r.responses.map (fun s => (s.serial, s.status)) =
          [([1, 44], .good),
            ([128], .revoked { seconds := 951782400 } (some "superseded")),
            ([0], .unknown)] := by
  have hfits : mixedAnswer.encoding.length < UInt64.size := by decide +kernel
  refine ⟨hfits, _, ofBytes_encoding mixedAnswer hfits, rfl, ?_⟩
  decide +kernel

end StatusResponse
end CertAudit
