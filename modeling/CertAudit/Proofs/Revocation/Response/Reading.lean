/- What the parts of an answer are read from. -/
import CertAudit.Proofs.Attempt
import CertAudit.Proofs.Der.Front
import CertAudit.Revocation.Response
import Mathlib.Data.List.Infix
namespace CertAudit
namespace ResponseReader

variable {bs rest : Bytes} {e : Der.Element} {r : StatusResponse}

theorem exists_of_bind {ε α β : Type} {x : Except ε α} {f : α → Except ε β} {y : β}
    (h : x >>= f = .ok y) : ∃ a, x = .ok a ∧ f a = .ok y :=
  bind_eq_ok_iff.mp h

theorem exists_of_ite_bind {ε α β : Type} {c : Prop} [Decidable c] {x y : Except ε α}
    {f : α → Except ε β} {z : β} (h : (if c then x >>= f else y >>= f) = .ok z) :
    ∃ a, (if c then x else y) = .ok a ∧ f a = .ok z := by
  by_cases hc : c
  · simp only [if_pos hc] at h ⊢
    exact exists_of_bind h
  · simp only [if_neg hc] at h ⊢
    exact exists_of_bind h

theorem next_eq_ok_iff : next bs = .ok (e, rest) ↔ Der.read bs = some (e, rest) := by
  simp only [next]
  cases hread : Der.read bs with
  | none => simp
  | some read => simp [Prod.ext_iff]

/-- Some bytes begin with an element of a universal tag. -/
structure Begins (tag : Nat) (bs : Bytes) (e : Der.Element) (rest : Bytes) : Prop where
  read : Der.read bs = some (e, rest)
  tagClass : e.tagClass = .universal
  tag : e.tag = tag

theorem expect_eq_ok_iff {tag : Nat} {what : String} :
    expect tag what bs = .ok (e, rest) ↔ Begins tag bs e rest := by
  constructor
  · intro h
    obtain ⟨⟨e', rest'⟩, hnext, h⟩ := exists_of_bind h
    dsimp only at h
    split at h
    · rename_i htag
      cases h
      exact ⟨next_eq_ok_iff.mp hnext, htag.1, htag.2⟩
    · cases h
  · rintro ⟨hread, hclass, rfl⟩
    simp only [expect, next_eq_ok_iff.mpr hread, bind, Except.bind, hclass, and_self, if_true]

theorem taken_append (front rest : Bytes) : taken (front ++ rest) rest = front := by
  simp [taken]

/-- The bytes of an element that is read are that element, with nothing behind it. -/
theorem taken_of_next (h : Der.read bs = some (e, rest)) :
    bs = taken bs rest ++ rest ∧ Der.read (taken bs rest) = some (e, []) := by
  obtain ⟨front, rfl, hfront⟩ := Der.read_readsFront bs e rest h
  rw [taken_append]
  refine ⟨rfl, ?_⟩
  simpa using hfront []

theorem content_isInfix (h : Der.read bs = some (e, rest)) : e.content <:+: bs := by
  obtain ⟨header, _, rfl⟩ := Der.read_eq_append h
  exact ⟨header, rest, by simp⟩

theorem rest_isInfix (h : Der.read bs = some (e, rest)) : rest <:+: bs := by
  obtain ⟨header, _, rfl⟩ := Der.read_eq_append h
  exact ⟨header ++ e.content, [], by simp⟩

/-- The bytes of an answer, or the base64 text of those bytes. -/
def Decodes (bs encoding : Bytes) : Prop :=
  encoding = bs ∨ Base64.decodeBody? bs = some encoding

theorem exists_decodes_of_ofBytes (h : StatusResponse.ofBytes bs = .ok r) :
    ∃ encoding, Decodes bs encoding ∧ response encoding = .ok r := by
  simp only [StatusResponse.ofBytes] at h
  split at h
  · rename_i hresponse
    cases h
    exact ⟨bs, .inl rfl, hresponse⟩
  · split at h
    · rename_i decoded hdecoded
      cases hresponse : response decoded with
      | ok r' =>
        rw [hresponse] at h
        cases h
        exact ⟨decoded, .inr hdecoded, hresponse⟩
      | error fault =>
        rw [hresponse] at h
        cases h
    · cases h

/-- What a signed answer keeps of the bytes it is read from: what is signed and the algorithm are
elements that follow one another, and the rest is read from them. -/
structure Keeps (bs : Bytes) (r : StatusResponse) : Prop where
  status : r.status = .successful
  inside : r.body ++ r.signatureAlgorithm <:+: bs
  data : ∃ body t, Der.read r.body = some (body, []) ∧ r.producedAt = some t ∧
    ResponseReader.data body.content = .ok (r.responder, t, r.responses)
  algorithm : ∃ algorithm, Der.read r.signatureAlgorithm = some (algorithm, []) ∧
    r.signatureAlgorithmOid =
      (Der.read algorithm.content).map fun read => Oid.ofContent read.1.content

theorem Keeps.of_basic (h : basic bs = .ok r) : Keeps bs r := by
  obtain ⟨⟨outer, _⟩, houter, h⟩ := exists_of_bind h
  obtain ⟨⟨body, afterBody⟩, hbody, h⟩ := exists_of_bind h
  obtain ⟨⟨algorithm, afterAlgorithm⟩, halgorithm, h⟩ := exists_of_bind h
  obtain ⟨⟨signature, _⟩, _, h⟩ := exists_of_bind h
  obtain ⟨certificates, _, h⟩ := exists_of_bind h
  obtain ⟨⟨responder, t, responses⟩, hdata, h⟩ := exists_of_bind h
  cases h
  obtain ⟨hfront, hsigned⟩ := taken_of_next (next_eq_ok_iff.mp hbody)
  obtain ⟨hfront', hnamed⟩ := taken_of_next (next_eq_ok_iff.mp halgorithm)
  refine ⟨rfl, ?_, ⟨body, t, hsigned, rfl, hdata⟩, ⟨algorithm, hnamed, rfl⟩⟩
  have hprefix : taken outer.content afterBody ++ taken afterBody afterAlgorithm <+:
      outer.content := by
    refine ⟨afterAlgorithm, ?_⟩
    rw [List.append_assoc, ← hfront', ← hfront]
  exact hprefix.isInfix.trans (content_isInfix (expect_eq_ok_iff.mp houter).read)

/-- An encoding is that of an answer: the content of its status, and what comes behind it. -/
def HasStatus (bs code rest : Bytes) : Prop :=
  ∃ outer tail status, Begins Der.Tag.sequence bs outer tail ∧
    Begins Der.Tag.enumerated outer.content status rest ∧ status.content = code

/-- The status in the content of its element: that of the last byte, and of zero without one. -/
def statusIn (code : Bytes) : ResponseStatus := .ofCode (code.getLastD 0).toNat

/-- An answer holds more than its status just where it is successful and something comes behind the
status. -/
theorem response_cases (h : response bs = .ok r) :
    ∃ code rest, HasStatus bs code rest ∧
      ((statusIn code ≠ .successful ∨ rest = []) ∧ r = { status := statusIn code } ∨
        statusIn code = .successful ∧ rest ≠ [] ∧ Keeps bs r) := by
  obtain ⟨⟨outer, tail⟩, houter, h⟩ := exists_of_bind h
  obtain ⟨⟨status, rest⟩, hstatus, h⟩ := exists_of_bind h
  have houter := expect_eq_ok_iff.mp houter
  have hstatus := expect_eq_ok_iff.mp hstatus
  refine ⟨status.content, rest, ⟨outer, tail, status, houter, hstatus, rfl⟩, ?_⟩
  dsimp only at h
  split at h
  · rename_i hbare
    cases h
    exact .inl ⟨hbare.imp_right List.isEmpty_iff.mp, rfl⟩
  · rename_i hmore
    obtain ⟨hsuccessful, hrest⟩ := not_or.mp hmore
    obtain ⟨⟨tagged, _⟩, htagged, h⟩ := exists_of_bind h
    dsimp only at h
    split at h
    · cases h
    · obtain ⟨⟨content, _⟩, hcontent, h⟩ := exists_of_bind h
      obtain ⟨⟨type, afterType⟩, htype, h⟩ := exists_of_bind h
      obtain ⟨⟨payload, _⟩, hpayload, h⟩ := exists_of_bind h
      dsimp only at h
      split at h
      · cases h
      · refine .inr ⟨not_not.mp hsuccessful, by simpa using hrest, ?_⟩
        have hkeeps := Keeps.of_basic h
        have hinside := content_isInfix (expect_eq_ok_iff.mp hpayload).read
          |>.trans (rest_isInfix (expect_eq_ok_iff.mp htype).read)
          |>.trans (content_isInfix (expect_eq_ok_iff.mp hcontent).read)
          |>.trans (content_isInfix (next_eq_ok_iff.mp htagged))
          |>.trans (rest_isInfix hstatus.read)
          |>.trans (content_isInfix houter.read)
        exact { hkeeps with inside := hkeeps.inside.trans hinside }

end ResponseReader
end CertAudit
